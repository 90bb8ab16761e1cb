import MysqlOperators.Interleaving
import MysqlOperators.Lifecycle
import MysqlOperators.Cluster
import MysqlOperators.Publication
import Mathlib.Logic.Function.Basic

/-!
The units that join the cluster. Every unit runs its start hook, which may run again,
and the relation-changed hook of the peer relation, which removes the unit's own
instance from the cluster before it adds it. Meanwhile instances fail and recover,
and each query may fail or see the cluster otherwise than its primary does.
-/
namespace MysqlOperators.Joining
open MysqlOperators.Program MysqlOperators.Program.Prog MysqlOperators.External MysqlOperators.Clients
open MysqlOperators.Workload MysqlOperators.Helpers MysqlOperators.Quiet MysqlOperators.Publication
open MysqlOperators.Cluster MysqlOperators.Cluster.ClusterManager
open MysqlOperators.Interleaving Contract.Local
open Function (update update_self update_of_ne)

/-! ### The application -/

structure Application where
  units : List UnitId
  charm : UnitId → Charm

inductive Job where
  | start
  | relationChanged
deriving DecidableEq, Repr

/-- How far a relation-changed hook is: it asks whether the unit can join, it has
    found that it can, and it has found the unit in the primary's topology. -/
inductive Phase where
  | idle
  | checking
  | joining
  | removing
deriving DecidableEq, Repr

/-- The hook may still remove the instance. -/
def Phase.pending : Phase → Bool
  | .joining | .removing => true
  | _ => false

/-- The hook that a unit runs, the `member-state` that it has found, and the cluster's
    name as it has read it. -/
structure Progress where
  job : Option Job
  found : Option String
  name : String
  phase : Phase
deriving DecidableEq, Repr

/-- The topology of the primary, which MySQL changes as instances come and go, and
    the `member-state` of each unit in its databag. -/
structure World where
  topology : List (String × InstanceInfo)
  memberState : UnitId → Option String
  hook : UnitId → Progress

inductive Act where
  | observe (topology : List (String × InstanceInfo))
deriving DecidableEq, Repr

/-- The instance with a label is ONLINE or RECOVERING. -/
def healthyIn (topology : List (String × InstanceInfo)) (label : String) : Bool :=
  match (topology.lookup label).map InstanceInfo.status with
  | some .online | some .recovering => true
  | _ => false

/-- The labels of the clusters that the check makes of the answer, if it goes on. -/
def labelsOf : Except Exn (List String) → Option (List String)
  | .ok labels => some labels
  | .error e => if e.isExecutionError then some [] else none

namespace Progress

/-- The state after a call of the unit with a label. -/
def after (p : Progress) (label : String) (c : Call) (r : Except Exn (Reply c)) : Progress :=
  match c,r with
  | .appData key, .ok name => if key = "cluster-name" then { p with name := (nonEmpty name).getD "" } else p
  | .unitData key, .ok state =>
    if key = "member-state" ∧ nonEmpty state = some "waiting" then { p with phase := .checking } else p
  | .clusterLabels _, r =>
    match p.phase,labelsOf r with
    | .checking, some labels => if labels.contains p.name then p else { p with phase := .joining }
    | _, _ => p
  | .clusterStatus .own, r =>
    match p.phase,topologyOf r with
    | .checking, some topology =>
      if topology.length = clusterMaxSize ∨ healthyIn topology label = true then { p with phase := .idle }
      else { p with phase := .joining }
    | _, _ => p
  | .clusterStatus (.host _), r =>
    match p.phase,topologyOf r with
    | .joining, some topology => { p with phase := if (topology.map Prod.fst).contains label then .removing else .idle }
    | _, _ => p
  | .detachInstance _ _, _ => { p with phase := .idle }
  | .rescanCluster _, _ => { p with phase := .idle }
  | .instanceRole _, _ => { p with phase := .idle }
  | _, _ => p

end Progress

namespace Application
variable (app : Application)

def label (u : UnitId) : String := getUnitLabel (app.charm u) (app.charm u).unit

/-- The primary sees the instance of a unit ONLINE or RECOVERING. -/
def healthy (w : World) (u : UnitId) : Bool := healthyIn w.topology (app.label u)

def program (u : UnitId) : Job → Hook Unit
  | .start => Lifecycle.onStart (app.charm u)
  | .relationChanged => onRelationChanged (app.charm u)

/-- A unit asks its own server about the cluster, or a peer that leads it to the
    primary. -/
def answer (w : World) (u : UnitId) : (c : Call) → Except Exn (Reply c) → Except Exn (Reply c)
  | .unitData key, .ok state => .ok (if key = "member-state" then w.memberState u else state)
  | .clusterStatus (.host _), .ok report => .ok { report with topology := w.topology }
  | _, r => r

def effect (w : World) (u : UnitId) (c : Call) (r : Except Exn (Reply c)) (happened : Bool) : World where
  topology := w.topology
  memberState :=
    match c,r with
    | .setUnitData key value, .ok _ =>
      if key = "member-state" then update w.memberState u (some value) else w.memberState
    | .setUnitData key value, .error _ =>
      if key = "member-state" ∧ happened = true then update w.memberState u (some value) else w.memberState
    | _, _ => w.memberState
  hook := update w.hook u ((w.hook u).after (app.label u) c r)

def begin_ (w : World) (u : UnitId) (job : Job) : Option World :=
  if u ∈ app.units then some { w with hook := update w.hook u ⟨some job,w.memberState u,"",.idle⟩ } else none

/-- Nothing is written by a hook that raises. -/
def finish (w : World) (u : UnitId) (_ : Job) (r : Except Exn Unit) : World where
  topology := w.topology
  memberState :=
    match r with
    | .ok _ => w.memberState
    | .error _ => update w.memberState u (w.hook u).found
  hook := update w.hook u ⟨none,none,"",.idle⟩

def act (w : World) : Act → World
  | .observe topology => { w with topology := topology }

def system : System UnitId Job Call Reply Exn Unit World Act where
  program := app.program
  answer := answer
  effect := app.effect
  begin_ := app.begin_
  finish := finish
  act := act

end Application

/-- No unit is about to remove its instance in relation-changed while the primary sees
    it ONLINE or RECOVERING. -/
def NeverRemovesHealthy (app : Application) (s : State UnitId Job Call Reply Exn Unit World) : Prop :=
  ∀ u at_ host, (s.world.hook u).job = some .relationChanged → s.next u = some (.detachInstance at_ host) →
    app.healthy s.world u = false

/-- What the check gets to see of the unit, the primary sees too: when the labels of
    the clusters lack the cluster, or the unit's own topology does not have it ONLINE
    or RECOVERING. A query that fails counts as one without results. And no instance
    recovers before its removal once the check has passed. -/
def undeceived (app : Application) : Condition UnitId Call Reply Exn World Act where
  call w u c r _ :=
    match c,r with
    | .clusterLabels _, r =>
      (match (w.hook u).phase,labelsOf r with
        | .checking, some labels => labels.contains (w.hook u).name || !app.healthy w u
        | _, _ => true)
    | .clusterStatus .own, r =>
      (match (w.hook u).phase,topologyOf r with
        | .checking, some topology =>
          topology.length == clusterMaxSize || healthyIn topology (app.label u) || !app.healthy w u
        | _, _ => true)
    | _, _ => true
  act w
    | .observe topology => app.units.all (fun u => !(w.hook u).phase.pending || !healthyIn topology (app.label u))

/-! ### The contract -/

section
variable (app : Application)

/-- An instance that may still be removed is not healthy. -/
def Inv (w : World) : Prop := ∀ u ∈ app.units, (w.hook u).phase.pending = true → app.healthy w u = false

def contract : Contract UnitId Call Reply Exn World Act where
  condition := undeceived app
  inv := Inv app
  guarantee u w w' := w'.topology = w.topology ∧ ∀ v, v ≠ u → w'.hook v = w.hook v
  environment w w' := w'.hook = w.hook
  safe w u
    | .detachInstance _ _ => (w.hook u).job = some .relationChanged → app.healthy w u = false
    | _ => True

def duties : Contract.Duties UnitId Job Exn Unit World where
  starts u job w := u ∈ app.units ∧ (w.hook u).job = some job
  ends _ _ _ _ := True

variable {app} {u : UnitId} {α β : Type} {P : Progress → Prop}

theorem healthyIn_iff {topology : List (String × InstanceInfo)} {label : String} : healthyIn topology label = true ↔
    (topology.lookup label).map InstanceInfo.status = some .online ∨
      (topology.lookup label).map InstanceInfo.status = some .recovering := by
  unfold healthyIn
  split <;> simp_all

/-- The condition is about the calls that let the check pass. -/
theorem pending_after {w : World} {c : Call} {r : Except Exn (Reply c)} {happened : Bool}
    (allowed : (undeceived app).call w u c r happened = true)
    (pending : ((w.hook u).after (app.label u) c r).phase.pending = true) :
    (w.hook u).phase.pending = true ∨ app.healthy w u = false := by
  unfold Progress.after at pending
  split at pending
  · split at pending <;> exact .inl pending
  · split at pending
    · cases pending
    · exact .inl pending
  · split at pending
    · rename_i labels phase answered
      split at pending
      · exact .inl pending
      · rename_i lacks
        have known : (labels.contains (w.hook u).name || !app.healthy w u) = true := by
          simpa only [undeceived,phase,answered] using allowed
        exact .inr (by simpa using (Bool.or_eq_true_iff.mp known).resolve_left lacks)
    · exact .inl pending
  · split at pending
    · rename_i topology phase answered
      split at pending
      · cases pending
      · rename_i passes
        obtain ⟨room,absent⟩ := not_or.mp passes
        exact .inr (by simpa [undeceived,phase,answered,room,absent] using allowed)
    · exact .inl pending
  · split at pending
    · rename_i phase _
      exact .inl (by rw [phase]; rfl)
    · exact .inl pending
  · cases pending
  · cases pending
  · cases pending
  · exact .inl pending

theorem job_after (p : Progress) (label : String) (c : Call) (r : Except Exn (Reply c)) :
    (p.after label c r).job = p.job := by
  unfold Progress.after
  repeat' split
  all_goals rfl

/-! ### Rules -/

/-- The knowledge of a unit about its hook. -/
def Known (app : Application) (u : UnitId) (P : Progress → Prop) (w : World) : Prop := u ∈ app.units ∧ P (w.hook u)

theorem stable_known : (contract app).Stable u (Known app u P) := by
  rintro w w' _ _ ⟨unit,holds⟩ (hook | ⟨v,other,guarantee⟩)
  · exact ⟨unit,by rw [show w'.hook = w.hook from hook]; exact holds⟩
  · exact ⟨unit,by rw [guarantee.2 u (Ne.symm other)]; exact holds⟩

theorem takes_known {c : Call} {Q : Except Exn (Reply c) → Progress → Prop}
    (safe : ∀ w, Inv app w → u ∈ app.units → P (w.hook u) → (contract app).safe w u c)
    (learns : ∀ p r, P p → Q r (p.after (app.label u) c r)) :
    (contract app).Takes app.system u c (Known app u P) (fun r => Known app u (Q r)) := by
  intro w inv known
  refine ⟨safe w inv known.1 known.2,fun raw happened allowed => ⟨?_,⟨rfl,fun v other => ?_⟩,known.1,?_⟩⟩
  · intro v unit pending
    by_cases own : v = u
    · subst own
      have after : ((w.hook v).after (app.label v) c (app.system.answer w v c raw)).phase.pending = true := by
        simpa [Application.system,Application.effect] using pending
      exact (pending_after allowed after).elim (inv v unit) id
    · refine inv v unit ?_
      simpa [Application.system,Application.effect,update_of_ne own] using pending
  · exact update_of_ne other ..
  · show Q _ (update w.hook u _ u)
    rw [update_self]
    exact learns _ _ known.2

variable (app u) in
/-- The knowledge of a unit, for the rules. -/
def view : Contract.Local (contract app) app.system u Progress where
  knows := Known app u
  mono weaker known := ⟨known.1,weaker _ known.2⟩
  stable _ := stable_known
  void _ := takes_known (fun _ _ _ gone => gone.elim) (fun _ _ gone => gone)

/-- Calls that change nothing here. -/
def plain : Call → Bool
  | .appData _ | .unitData _ | .clusterLabels _ | .clusterStatus _ | .detachInstance _ _ | .rescanCluster _
  | .instanceRole _ => false
  | _ => true

theorem after_plain {c : Call} (calm : plain c = true) (p : Progress) (label : String) (r : Except Exn (Reply c)) :
    p.after label c r = p := by
  unfold Progress.after
  split <;> first | rfl | cases calm

def Detaches (c : Call) : Prop := ∃ at_ host, c = .detachInstance at_ host

theorem safe_of_mild {c : Call} (mild : ¬ Detaches c) (w : World) : (contract app).safe w u c := by
  unfold contract
  dsimp only
  split
  · exact absurd ⟨_,_,rfl⟩ mild
  · trivial

theorem goes_call {c : Call} {Q : Except Exn (Reply c) → Progress → Prop}
    (safe : ∀ w, Inv app w → u ∈ app.units → P (w.hook u) → (contract app).safe w u c)
    (learns : ∀ p r, P p → Q r (p.after (app.label u) c r)) : (view app u).Goes (ask c) P Q :=
  goes_perform (takes_known safe learns)

theorem goes_mild {c : Call} {Q : Except Exn (Reply c) → Progress → Prop} (mild : ¬ Detaches c)
    (learns : ∀ p r, P p → Q r (p.after (app.label u) c r)) : (view app u).Goes (ask c) P Q :=
  goes_call (fun w _ _ _ => safe_of_mild mild w) learns

/-- What makes only plain calls keeps everything. -/
theorem goes_plain {p : Hook α} (avoids : Avoids (fun c => plain c = false) p) :
    (view app u).Goes p P (fun _ => P) := by
  refine goes_frame (fun c calm => takes_known (fun w _ _ _ => ?_) (fun p r holds => ?_)) avoids
  · refine safe_of_mild ?_ w
    rintro ⟨at_,host,rfl⟩
    exact calm rfl
  · rw [after_plain (by simpa using calm)]
    exact holds

/-- What does not remove an instance needs to know nothing. -/
theorem goes_free {p : Hook α} (avoids : Avoids Detaches p) : (view app u).Goes p P (fun _ _ => True) := by
  have framed : (view app u).Goes p (fun _ => True) (fun _ _ => True) := by
    refine goes_frame (fun c mild => ?_) avoids
    exact @takes_known app u (fun _ => True) c (fun _ _ => True) (fun w _ _ _ => safe_of_mild mild w)
      (fun _ _ _ => trivial)
  exact goes_pre framed (fun _ _ => trivial)

theorem goes_free_bind {p : Hook β} {f : β → Hook α} (avoids : Avoids Detaches p)
    (rest : ∀ b, (view app u).Goes (f b) (fun _ => True) (fun _ _ => True)) :
    (view app u).Goes (p >>= f) P (fun _ _ => True) := goes_bind (goes_free avoids) rest (fun _ _ _ => trivial)

theorem mild_of_quiet {p : Hook α} (avoids : Avoids Loud p) : Avoids Detaches p := by
  refine avoids_mono (fun c detaches => ?_) avoids
  obtain ⟨at_,host,rfl⟩ := detaches
  rfl

/-! ### The check -/

theorem goes_clusterName :
    (view app u).Goes clusterName P (fun r p => ∀ name, r = .ok name → p.name = name) := by
  refine goes_bind (M := fun r p => ∀ name, r = .ok name → p.name = (nonEmpty name).getD "")
    (goes_mild nofun fun p r _ name answered => ?_) (fun name => goes_pure fun p named _ same => ?_)
    (fun _ _ _ => nofun)
  · rw [answered]
    simp [Progress.after]
  · cases same
    exact named name rfl

theorem goes_waiting (name : String) :
    (view app u).Goes (ask (.unitData "member-state")) (fun p => p.name = name)
      (fun r p => ∀ published, r = .ok published → nonEmpty published = some "waiting" →
        p.phase = .checking ∧ p.name = name) := by
  refine goes_mild nofun fun p r named published answered waits => ?_
  rw [answered]
  simp [Progress.after,waits,named]

/-- A member that does not know the cluster goes on to join it. -/
theorem goes_labelled (name : String) :
    (view app u).Goes InstanceClient.fetchClusterLabels (fun p => p.phase = .checking ∧ p.name = name)
      (fun r p => ∀ labels, r = .ok labels →
        p.phase = if labels.contains name then .checking else .joining) := by
  refine goes_tryElse (M := fun r p => ∀ labels, labelsOf r = some labels →
    p.phase = if labels.contains name then .checking else .joining)
    (goes_mild nofun fun p r known labels answered => ?_)
    (fun e caught => goes_pure fun p known labels same => ?_) (fun labels => goes_pure fun p known _ same => ?_)
    (fun _ _ _ _ => nofun)
  · simp only [Progress.after,known.1,known.2,answered]
    split
    · exact known.1
    · rfl
  · cases same
    exact known [] (by simp [labelsOf,caught])
  · cases same
    exact known labels rfl

/-- One that the topology does not list as healthy goes on where there is room. -/
theorem goes_listed :
    (view app u).Goes (ClusterClient.fetchInstances .own) (fun p => p.phase = .checking)
      (fun r p => ∀ topology, r = .ok topology → topology.length ≠ clusterMaxSize →
        healthyIn topology (app.label u) = false → p.phase = .joining) := by
  refine goes_tryElse (M := fun r p => ∀ topology, topologyOf r = some topology → topology.length ≠ clusterMaxSize →
    healthyIn topology (app.label u) = false → p.phase = .joining)
    (goes_mild nofun fun p r known topology answered => ?_)
    (fun e caught => goes_pure fun p known topology same => ?_) (fun report => goes_pure fun p known _ same => ?_)
    (fun _ _ _ _ => nofun)
  · intro room absent
    simp [Progress.after,known,answered,room,absent]
  · cases same
    exact known [] (by simp [topologyOf,caught])
  · cases same
    exact known report.topology rfl

/-- The check lets a unit join only where it says so in its own progress. -/
theorem goes_checkInstanceJoinCluster (name : String) :
    (view app u).Goes (checkInstanceJoinCluster name (app.label u)) (fun p => p.name = name)
      (fun r p => r = .ok true → p.phase = .joining) := by
  unfold checkInstanceJoinCluster
  refine goes_bind (goes_waiting name) (fun published => ?_) (fun _ _ _ => nofun)
  refine goes_ite _ (fun _ => goes_pure fun _ _ => nofun) (fun waits => ?_)
  have found : nonEmpty published = some "waiting" := by
    cases state : nonEmpty published with
    | none => simp [state] at waits
    | some state' => simpa [state] using waits
  refine goes_bind (goes_pre (goes_labelled name) fun p known => known published rfl found) (fun labels => ?_)
    (fun _ _ _ => nofun)
  refine goes_ite _ (fun lacks => goes_pure fun p known _ => ?_) (fun member => ?_)
  · have phase := known labels rfl
    rw [lacks] at phase
    exact phase
  refine goes_bind (goes_pre goes_listed fun p known => ?_) (fun instances => ?_) (fun _ _ _ => nofun)
  · have phase := known labels rfl
    rw [if_pos (by simpa using member)] at phase
    exact phase
  refine goes_ite _ (fun _ => goes_pure fun _ _ => nofun) (fun room => ?_)
  refine goes_ite _ (fun _ => goes_pure fun _ _ => nofun) (fun absent => ?_)
  refine goes_pure fun p known _ => known instances rfl room ?_
  by_contra present
  exact absent (healthyIn_iff.mp (by simpa using present))

/-! ### The removal -/

theorem mild_locking {at_ : Target} {label task : String} {body : Hook Unit} (inside : Avoids Detaches body) :
    Avoids Detaches (ClusterClient.locking at_ label task body) := avoids_locking (by simp [Detaches]) inside

/-- The instance is removed under the lock, with what the check has left known. -/
theorem goes_removeInstance (at_ : Target) (label host : String) (remote : ∃ name, at_ = .host name) :
    (view app u).Goes (ClusterClient.removeInstance at_ label host) (fun p => p.phase = .removing)
      (fun _ _ => True) := by
  obtain ⟨primary,rfl⟩ := remote
  have asked : (view app u).Goes (ask (.clusterStatus (.host primary))) (fun p => p.phase = .removing)
      (fun _ p => p.phase = .removing) := by
    refine goes_mild nofun fun p r removing => ?_
    simp [Progress.after,removing]
  have primaryHost : (view app u).Goes (ClusterClient.fetchPrimaryHost (.host primary)) (fun p => p.phase = .removing)
      (fun _ p => p.phase = .removing) := by
    refine goes_tryElse asked (fun _ _ => goes_pure fun _ => id) (fun status => ?_) (fun _ _ _ => id)
    refine goes_ite _ (fun _ => goes_pure fun _ => id) (fun _ => ?_)
    cases status.primary with
    | none => exact goes_raise fun _ => id
    | some address => exact goes_pure fun _ => id
  have detached : (view app u).Goes (ask (.detachInstance (.host primary) host)) (fun p => p.phase = .removing)
      (fun _ _ => True) :=
    goes_call (fun w inv unit removing _ => inv u unit (by rw [removing]; rfl)) (fun _ _ _ => trivial)
  refine goes_bind primaryHost (fun found => goes_ite _ (fun _ => goes_pure fun _ _ => trivial) fun _ => ?_)
    (fun _ _ _ => trivial)
  refine goes_bind (goes_plain (avoids_retry ?_ _)) (fun _ => ?_) (fun _ _ _ => trivial)
  · exact avoids_bind (avoids_ask nofun) fun _ => avoids_ite _ (fun _ => trivial) (fun _ => trivial)
  refine goes_finallyDo (N := fun _ _ _ => True) detached (fun _ => goes_free ?_) (fun _ _ _ => trivial)
    (fun _ _ _ _ => trivial)
  exact avoids_bind (avoids_ask nofun) fun _ => avoids_ite _ (fun _ => trivial) (fun _ => trivial)

theorem mild_addInstance (at_ : Target) (label host : String) :
    Avoids Detaches (ClusterClient.addInstance at_ label host) :=
  mild_locking (avoids_tryExcept (avoids_ask nofun) fun _ => avoids_ask nofun)

theorem mild_updateState : Avoids Detaches ClusterManager.updateState := by
  refine avoids_bind (mild_of_quiet (quiet_ask rfl)) fun role => ?_
  refine avoids_bind (mild_of_quiet (quiet_ask rfl)) fun state => ?_
  exact avoids_bind (avoids_ask nofun) fun _ => avoids_ask nofun

theorem goes_joinInstance (host : String) (addresses : List String) :
    (view app u).Goes (joinInstance (app.label u) host addresses) (fun p => p.phase = .joining) (fun _ _ => True) := by
  unfold joinInstance
  refine goes_bind (goes_plain (avoids_findClusterPrimary (fun _ bad => by cases bad) addresses)) (fun primary => ?_)
    (fun _ _ _ => trivial)
  cases primary with
  | none => exact goes_pure fun _ _ => trivial
  | some primary =>
    refine goes_bind (goes_plain (avoids_ask (fun bad => by cases bad))) (fun _ => ?_) (fun _ _ _ => trivial)
    have listed : (view app u).Goes (ClusterClient.fetchInstances (.host primary)) (fun p => p.phase = .joining)
        (fun r p => ∀ topology, r = .ok topology → (topology.map Prod.fst).contains (app.label u) = true →
          p.phase = .removing) := by
      refine goes_tryElse (M := fun r p => ∀ topology, topologyOf r = some topology →
        (topology.map Prod.fst).contains (app.label u) = true → p.phase = .removing)
        (goes_mild (by rintro ⟨_,_,same⟩; cases same) fun p r joining topology answered member => ?_)
        (fun e caught => goes_pure fun p known topology same => ?_)
        (fun report => goes_pure fun p known _ same => ?_) (fun _ _ _ _ _ same => by cases same)
      · simp only [Progress.after,joining,answered,member,if_true]
      · cases same
        exact known [] (by simp [topologyOf,caught])
      · cases same
        exact known report.topology rfl
    have rest : (view app u).Goes (do
        ClusterClient.addInstance (.host primary) (app.label u) host
        ClusterManager.updateState) (fun _ => True) (fun _ _ => True) :=
      goes_free (avoids_bind (mild_addInstance _ _ _) fun _ => mild_updateState)
    refine goes_bind listed (fun instances => goes_ite _ (fun member => ?_) (fun _ => goes_pre rest fun _ _ => trivial))
      (fun _ _ _ => trivial)
    refine goes_bind (goes_pre (goes_removeInstance (.host primary) _ host ⟨primary,rfl⟩) fun p known => ?_)
      (fun _ => ?_) (fun _ _ _ => trivial)
    · exact known instances rfl member
    · exact goes_free_bind (avoids_ask (by rintro ⟨_,_,same⟩; cases same)) fun _ => rest

/-! ### The hooks -/

theorem goes_onRelationChanged :
    (view app u).Goes (onRelationChanged (app.charm u)) (fun p => p.job = some .relationChanged) (fun _ _ => True) := by
  have free {γ : Type} {p : Hook γ} {P : Progress → Prop} (quiet : Avoids Loud p) :
      (view app u).Goes p P (fun _ _ => True) := goes_free (mild_of_quiet quiet)
  unfold onRelationChanged
  refine goes_bind (free (quiet_updateDatabaseEndpoints _)) (fun _ => ?_) (fun _ _ _ => trivial)
  refine goes_bind (free (quiet_ask rfl)) (fun peers => ?_) (fun _ _ _ => trivial)
  cases peers with
  | none => exact goes_free (avoids_ask nofun)
  | some peers =>
    refine goes_bind (free (quiet_collectPeerAddresses _)) (fun addresses => ?_) (fun _ _ _ => trivial)
    refine goes_ite _ (fun _ => goes_free (avoids_ask nofun)) (fun _ => ?_)
    refine goes_bind goes_clusterName (fun name => ?_) (fun _ _ _ => trivial)
    refine goes_bind (goes_plain (avoids_getUnitAddress nofun (fun _ => nofun) _ _ _)) (fun host => ?_)
      (fun _ _ _ => trivial)
    refine goes_bind (goes_pre (goes_checkInstanceJoinCluster name) fun p known => known name rfl) (fun joins => ?_)
      (fun _ _ _ => trivial)
    refine goes_ite _ (fun yes => ?_) (fun _ => goes_pure fun _ _ => trivial)
    refine goes_bind (goes_pre (goes_joinInstance host addresses) fun p known => known (by rw [yes])) (fun _ => ?_)
      (fun _ _ _ => trivial)
    exact free (avoids_bind quiet_buildUnitStatus fun _ => quiet_setUnitStatus _)

/-- A start hook that runs again removes nothing. -/
theorem goes_onStart : (view app u).Goes (Lifecycle.onStart (app.charm u)) (fun p => p.job = some .start)
    (fun _ _ => True) := by
  have takes (c : Call) : (contract app).Takes app.system u c (Known app u (fun p => p.job = some .start))
      (fun _ => Known app u (fun p => p.job = some .start)) := by
    refine takes_known (fun w _ _ start => ?_) (fun p r start => ?_)
    · unfold contract
      dsimp only
      split
      · intro changed
        rw [start] at changed
        cases changed
      · trivial
    · rw [job_after]
      exact start
  exact goes_post (goes_frame (fun c _ => takes c) (avoids_of_never _)) (fun _ _ _ => trivial)

theorem begins (w : World) (u : UnitId) (job : Job) (w' : World) (inv : Inv app w)
    (begun : app.begin_ w u job = some w') :
    Inv app w' ∧ (contract app).guarantee u w w' ∧ (duties app).starts u job w' := by
  unfold Application.begin_ at begun
  split at begun
  · rename_i unit
    cases begun
    refine ⟨fun v member pending => ?_,⟨rfl,fun v other => update_of_ne other ..⟩,unit,by simp⟩
    by_cases own : v = u
    · subst own
      simp [Phase.pending] at pending
    · exact inv v member (by simpa [update_of_ne own] using pending)
  · cases begun

theorem finishes (w : World) (u : UnitId) (job : Job) (r : Except Exn Unit) (inv : Inv app w) :
    Inv app (Application.finish w u job r) ∧ (contract app).guarantee u w (Application.finish w u job r) := by
  refine ⟨fun v member pending => ?_,rfl,fun v other => update_of_ne other ..⟩
  by_cases own : v = u
  · subst own
    simp [Application.finish,Phase.pending] at pending
  · exact inv v member (by simpa [Application.finish,update_of_ne own] using pending)

theorem acts (w : World) (a : Act) (allowed : (undeceived app).act w a = true) :
    Inv app (Application.act w a) ∧ (contract app).environment w (Application.act w a) := by
  cases a with
  | observe topology =>
    refine ⟨fun u member pending => ?_,rfl⟩
    have calm := List.all_eq_true.mp allowed u member
    rw [show (w.hook u).phase.pending = true from pending] at calm
    show healthyIn topology (app.label u) = false
    simpa using calm

theorem fulfils : (contract app).Fulfils app.system (duties app) where
  begins := begins
  finishes w u job r inv _ := finishes w u job r inv
  acts w a _ allowed := acts w a allowed
  jobs u job := by
    have ended {p : Hook Unit} (goes : (view app u).Goes p (fun p => p.job = some job) (fun _ _ => True)) :
        (contract app).Outline app.system u p ((duties app).starts u job) ((duties app).ends u job) :=
      Contract.outline_post goes (fun _ _ _ _ => trivial)
    cases job with
    | start => exact ended goes_onStart
    | relationChanged => exact ended goes_onRelationChanged
  lasts u _ _ := (contract app).stable_const u True

end

/-- From every world in which no hook is under way, in every order of start hooks,
    relation-changed hooks and changes of the topology whose steps meet the condition. -/
theorem neverRemovesHealthy_of_undeceived (app : Application) (w : World)
    (labels : List (Label UnitId Job Call Reply Exn Act)) (fresh : ∀ u, (w.hook u).phase = .idle)
    (allowed : app.system.allAllowed (undeceived app) (idle w) labels = true) :
    NeverRemovesHealthy app (app.system.run (idle w) labels) := by
  have inv : Inv app w := by
    intro u _ pending
    rw [fresh u] at pending
    cases pending
  have bound := Contract.bound_run (@fulfils app) (Contract.bound_idle inv) labels allowed
  intro u at_ host changed next
  exact Contract.safe_of_bound bound next changed

/-- Two units that run on machines. -/
def pair : Application := ⟨[0,1],fun u => ⟨.vm,"mysql",u,"cluster",""⟩⟩

/-- Both units are members; the first one is the primary. -/
def members : List (String × InstanceInfo) :=
  [("mysql-0",⟨.online,"R/W",none,none⟩),("mysql-1",⟨.online,"R/O",none,none⟩)]

def joined (topology : List (String × InstanceInfo)) : World :=
  ⟨topology,fun _ => some "ONLINE",fun _ => ⟨none,none,"",.idle⟩⟩

/-- Every call succeeds, and the unit's own server shows what the primary shows. -/
def replies (topology : List (String × InstanceInfo)) : (c : Call) → Except Exn (Reply c)
  | .snapPresent => .ok true
  | .snapServiceActive => .ok true
  | .peekContent _ => .ok [("monitoring-password","a"),("operator-password","b")]
  | .executeSync _ => .ok "ibdata1"
  | .peersRelation => .ok (some ⟨[(0,[("database-peers-address","10.0.0.1")])],[("database-peers-address","10.0.0.2")],0⟩)
  | .appData _ => .ok (some "cluster")
  | .clusterLabels _ => .ok ["cluster"]
  | .clusterSetStatus _ => .ok ⟨"cluster",[("cluster",⟨"OK",some "10.0.0.1:3306"⟩)]⟩
  | .clusterStatus _ => .ok ⟨.primary,.ok,some "10.0.0.1:3306",topology⟩
  | .executeSql _ (.lockAcquire _ label) => .ok [label]
  | _ => .ok default

/-- The second unit starts again, and then runs relation-changed as far as a removal. -/
def startedAgain (reply : (c : Call) → Except Exn (Reply c)) : List (Label UnitId Job Call Reply Exn Act) :=
  Label.whole 1 .start reply 30 ++ .start 1 .relationChanged :: List.replicate 18 (.call 1 reply false)

/-- The instance of the second unit has been lost. -/
def lost : List (String × InstanceInfo) :=
  [("mysql-0",⟨.online,"R/W",none,none⟩),("mysql-1",⟨.missing,"n/a",none,none⟩)]

theorem neverRemovesHealthy_lost :
    (pair.system.run (idle (joined lost)) (startedAgain (replies lost))).next 1 =
        some (.detachInstance (.host "10.0.0.1") "10.0.0.2") ∧
      NeverRemovesHealthy pair (pair.system.run (idle (joined lost)) (startedAgain (replies lost))) :=
  ⟨by decide +kernel,neverRemovesHealthy_of_undeceived pair (joined lost) (startedAgain (replies lost)) (fun _ => rfl)
    (by decide +kernel)⟩

/-- The query for the unit's own topology fails. -/
def unanswered : (c : Call) → Except Exn (Reply c)
  | .clusterStatus .own => .error ⟨.executionError,"Lost connection to MySQL server"⟩
  | c => replies members c

/-- Since the start the unit counts as one that waits to join, its topology looks
    empty, and the primary lists the instance, whatever its state. -/
theorem unanswered_removes :
    ¬ ∀ (app : Application) (w : World) (labels : List (Label UnitId Job Call Reply Exn Act)),
      (∀ u, (w.hook u).phase = .idle) → NeverRemovesHealthy app (app.system.run (idle w) labels) := by
  intro always
  have next : (pair.system.run (idle (joined members)) (startedAgain unanswered)).next 1 =
      some (.detachInstance (.host "10.0.0.1") "10.0.0.2") := by decide +kernel
  have removed := always pair (joined members) (startedAgain unanswered) (fun _ => rfl) 1 _ _ (by decide +kernel) next
  have healthy : pair.healthy (pair.system.run (idle (joined members)) (startedAgain unanswered)).world 1 = true := by
    decide +kernel
  rw [healthy] at removed
  cases removed

end MysqlOperators.Joining
