import MysqlOperators.Joining

/-!
The size of the cluster. The relation-changed hooks of the units join their instances
to the cluster of the primary, each after a check of its own; meanwhile members leave,
and each query about the cluster may fail or see it otherwise than its primary does.
-/
namespace MysqlOperators.ClusterSize
open MysqlOperators.Program MysqlOperators.Program.Prog MysqlOperators.External MysqlOperators.Clients
open MysqlOperators.Workload MysqlOperators.Helpers MysqlOperators.Quiet MysqlOperators.Publication
open MysqlOperators.Cluster MysqlOperators.Cluster.ClusterManager
open MysqlOperators.Joining (Application labelsOf healthyIn healthyIn_iff)
open MysqlOperators.Interleaving Contract.Local
open Function (update update_self update_of_ne)

/-! ### The application -/

/-- The one job of a unit. -/
inductive Job where
  | relationChanged
deriving DecidableEq, Repr

/-- How far a relation-changed hook is: it asks whether the unit can join, and it has
    found that it can. -/
inductive Phase where
  | idle
  | checking
  | joining
deriving DecidableEq, Repr

/-- The cluster's name as the hook has read it, and how far the hook is. -/
structure Progress where
  name : String
  phase : Phase
deriving DecidableEq, Repr

/-- The labels of the members of the cluster. -/
structure World where
  members : List String
  hook : UnitId → Progress

inductive Act where
  | leave (label : String)
deriving DecidableEq, Repr

/-- Without the instance with a label, the cluster is not full. -/
def hasRoom (members : List String) (label : String) : Bool :=
  decide ((members.filter (· != label)).length < clusterMaxSize)

/-- The members after an attempt to attach an instance. -/
def attached (members : List String) (label : String) (r : Except Exn Unit) (happened : Bool) : List String :=
  match r with
  | .ok _ => if members.contains label then members else members ++ [label]
  | .error _ => if happened = true ∧ members.contains label = false then members ++ [label] else members

/-- The members after an attempt to detach an instance. -/
def detached (members : List String) (label : String) (r : Except Exn Unit) (happened : Bool) : List String :=
  match r with
  | .ok _ => members.filter (· != label)
  | .error _ => if happened then members.filter (· != label) else members

/-- The state of the hook after a call of the unit with a label. -/
def Progress.after (p : Progress) (label : String) (c : Call) (r : Except Exn (Reply c)) : Progress :=
  match c,r with
  | .appData key, .ok name => if key = "cluster-name" then { p with name := (nonEmpty name).getD "" } else p
  | .unitData key, .ok state =>
    if key = "member-state" ∧ nonEmpty state = some "waiting" then { p with phase := .checking } else p
  | .clusterLabels _, r =>
    match p.phase,labelsOf r with
    | .checking, some labels => if labels.contains p.name then p else { p with phase := .joining }
    | _, _ => p
  | .clusterStatus .own, r =>
    match p.phase,topologyOf r with
    | .checking, some topology =>
      if topology.length = clusterMaxSize ∨ healthyIn topology label = true then { p with phase := .idle }
      else { p with phase := .joining }
    | _, _ => p
  | .attachInstance _ _ _ method, .error e =>
    if method = "auto" ∧ e.isExecutionError = true then p else { p with phase := .idle }
  | .attachInstance _ _ _ _, .ok _ => { p with phase := .idle }
  | _, _ => p

section
variable (app : Application)

/-- Every answer is free: no query is trusted to know the cluster. -/
def answer (_ : World) (_ : UnitId) (c : Call) (r : Except Exn (Reply c)) : Except Exn (Reply c) := r

/-- A unit detaches no instance but its own. -/
def effect (w : World) (u : UnitId) (c : Call) (r : Except Exn (Reply c)) (happened : Bool) : World where
  members :=
    match c,r with
    | .attachInstance _ label _ _, r => attached w.members label r happened
    | .detachInstance _ _, r => detached w.members (app.label u) r happened
    | _, _ => w.members
  hook := update w.hook u ((w.hook u).after (app.label u) c r)

def begin_ (w : World) (u : UnitId) : Option World :=
  if u ∈ app.units then some { w with hook := update w.hook u ⟨"",.idle⟩ } else none

def finish (w : World) (u : UnitId) : World := { w with hook := update w.hook u ⟨"",.idle⟩ }

def act (w : World) : Act → World
  | .leave label => { w with members := w.members.filter (· != label) }

def system : System UnitId Job Call Reply Exn Unit World Act where
  program u _ := onRelationChanged (app.charm u)
  answer := answer
  effect := effect app
  begin_ w u _ := begin_ app w u
  finish w u _ _ := finish w u
  act := act

/-- No unit is about to add an instance that is not a member to a full cluster, and
    the cluster has not grown beyond its maximum. -/
def RespectsMaximum (before : World) (s : State UnitId Job Call Reply Exn Unit World) : Prop :=
  (∀ u at_ label host method, s.next u = some (.attachInstance at_ label host method) → label ∉ s.world.members →
    s.world.members.length < clusterMaxSize) ∧
  s.world.members.length ≤ max clusterMaxSize before.members.length

/-- A unit that its server or its topology lets join has room in the cluster: where its
    server does not list the cluster, or the topology that it gets has neither exactly
    the maximum of instances nor its own one ONLINE or RECOVERING. A query that fails
    counts as one without results. And no other unit takes the last place of one that
    has passed the check. -/
def roomy : Condition UnitId Call Reply Exn World Act where
  call w u c r happened :=
    match c,r with
    | .clusterLabels _, r =>
      (match (w.hook u).phase,labelsOf r with
        | .checking, some labels => labels.contains (w.hook u).name || hasRoom w.members (app.label u)
        | _,_ => true)
    | .clusterStatus .own, r =>
      (match (w.hook u).phase,topologyOf r with
        | .checking, some topology => topology.length == clusterMaxSize || healthyIn topology (app.label u) ||
            hasRoom w.members (app.label u)
        | _,_ => true)
    | .attachInstance _ label _ _, r =>
      app.units.all fun v => (w.hook v).phase != .joining || hasRoom (attached w.members label r happened) (app.label v)
    | _, _ => true
  act _ _ := true

end

/-! ### Rooms -/

theorem room_of_absent {members : List String} {label : String} (room : hasRoom members label = true)
    (absent : label ∉ members) : members.length < clusterMaxSize := by
  have all : members.filter (· != label) = members := by
    refine List.filter_eq_self.mpr fun other member => ?_
    simp only [bne_iff_ne,ne_eq]
    rintro rfl
    exact absent member
  rw [hasRoom,all] at room
  exact of_decide_eq_true room

theorem room_filter {members : List String} {label : String} (room : hasRoom members label = true) (p : String → Bool) :
    hasRoom (members.filter p) label = true := by
  have fewer : (members.filter p).filter (· != label) |>.Sublist (members.filter (· != label)) :=
    (List.filter_sublist (p := p)).filter _
  exact decide_eq_true (Nat.lt_of_le_of_lt fewer.length_le (of_decide_eq_true room))

theorem length_attached {members : List String} {label : String} {bound : Nat} (within : members.length ≤ bound)
    (room : label ∉ members → members.length < bound) (r : Except Exn Unit) (happened : Bool) :
    (attached members label r happened).length ≤ bound := by
  have grown (absent : members.contains label = false) : (members ++ [label]).length ≤ bound := by
    rw [List.length_append,List.length_singleton]
    exact room (by simpa using absent)
  cases r with
  | ok _ =>
    simp only [attached]
    split
    · exact within
    · rename_i absent
      exact grown (by simpa using absent)
  | error _ =>
    simp only [attached]
    split
    · rename_i added
      exact grown added.2
    · exact within

theorem detached_eq (members : List String) (label : String) (r : Except Exn Unit) (happened : Bool) :
    detached members label r happened = members ∨ detached members label r happened = members.filter (· != label) := by
  cases r with
  | ok _ => exact .inr rfl
  | error _ => cases happened <;> simp [detached]

/-! ### The contract -/

section
variable (app : Application) (bound : Nat)

/-- A unit that has passed the check has room in the cluster. -/
structure Inv (w : World) : Prop where
  room : ∀ u ∈ app.units, (w.hook u).phase = .joining → hasRoom w.members (app.label u) = true
  length : w.members.length ≤ max clusterMaxSize bound

def contract : Contract UnitId Call Reply Exn World Act where
  condition := roomy app
  inv := Inv app bound
  guarantee u w w' := ∀ v, v ≠ u → w'.hook v = w.hook v
  environment w w' := w'.hook = w.hook
  safe w _
    | .attachInstance _ label _ _ => label ∉ w.members → w.members.length < clusterMaxSize
    | _ => True

def duties : Contract.Duties UnitId Job Exn Unit World where
  starts u _ _ := u ∈ app.units
  ends _ _ _ _ := True

variable {app bound} {u : UnitId} {α β : Type} {P : Progress → Prop}

/-- The condition is about the calls that let the check pass. -/
theorem room_after {w : World} {c : Call} {r : Except Exn (Reply c)} {happened : Bool}
    (allowed : (roomy app).call w u c r happened = true)
    (joining : ((w.hook u).after (app.label u) c r).phase = .joining) :
    (w.hook u).phase = .joining ∨ hasRoom w.members (app.label u) = true := by
  unfold Progress.after at joining
  split at joining
  · split at joining <;> exact .inl joining
  · split at joining
    · cases joining
    · exact .inl joining
  · split at joining
    · rename_i labels phase answered
      split at joining
      · exact .inl joining
      · rename_i lacks
        have known : (labels.contains (w.hook u).name || hasRoom w.members (app.label u)) = true := by
          simpa only [roomy,phase,answered] using allowed
        exact .inr ((Bool.or_eq_true_iff.mp known).resolve_left lacks)
    · exact .inl joining
  · split at joining
    · rename_i topology phase answered
      split at joining
      · cases joining
      · rename_i passes
        obtain ⟨other,absent⟩ := not_or.mp passes
        exact .inr (by simpa [roomy,phase,answered,other,absent] using allowed)
    · exact .inl joining
  · split at joining
    · exact .inl joining
    · cases joining
  · cases joining
  · exact .inl joining

/-- A call that the condition allows leaves those that have passed the check their room. -/
theorem room_effect {w : World} {c : Call} {r : Except Exn (Reply c)} {happened : Bool}
    (allowed : (roomy app).call w u c r happened = true) {v : UnitId} (unit : v ∈ app.units)
    (before : hasRoom w.members (app.label v) = true) (attaches : (∀ at_ label host method,
      c ≠ .attachInstance at_ label host method) ∨ (w.hook v).phase = .joining) :
    hasRoom (effect app w u c r happened).members (app.label v) = true := by
  simp only [effect]
  split
  · rename_i at_ label host method r
    have joining := attaches.resolve_left fun other => other at_ label host method rfl
    have kept := List.all_eq_true.mp allowed v unit
    simpa [joining] using kept
  · rcases detached_eq w.members (app.label u) ‹_› happened with same | fewer
    · rw [same]
      exact before
    · rw [fewer]
      exact room_filter before _
  · exact before

theorem joining_of_attached {p : Progress} {label : String} {at_ : Target} {label' host method : String}
    {r : Except Exn Unit} (joining : (p.after label (.attachInstance at_ label' host method) r).phase = .joining) :
    p.phase = .joining := by
  cases r with
  | ok _ => cases joining
  | error e =>
    simp only [Progress.after] at joining
    split at joining
    · exact joining
    · cases joining

/-- What a safe call does keeps the invariant. -/
theorem inv_effect {w : World} (inv : Inv app bound w) {c : Call} (safe : (contract app bound).safe w u c)
    (unit : u ∈ app.units) {r : Except Exn (Reply c)} {happened : Bool}
    (allowed : (roomy app).call w u c r happened = true) : Inv app bound (effect app w u c r happened) := by
  refine ⟨fun v member joining => ?_,?_⟩
  · by_cases own : v = u
    · subst own
      have after : ((w.hook v).after (app.label v) c r).phase = .joining := by simpa [effect] using joining
      by_cases attaches : ∀ at_ label host method, c ≠ .attachInstance at_ label host method
      · have before := (room_after allowed after).elim (inv.room v unit) id
        exact room_effect allowed unit before (.inl attaches)
      · push Not at attaches
        obtain ⟨at_,label,host,method,rfl⟩ := attaches
        have before := joining_of_attached after
        exact room_effect allowed unit (inv.room v unit before) (.inr before)
    · have before : (w.hook v).phase = .joining := by simpa [effect,update_of_ne own] using joining
      exact room_effect allowed member (inv.room v member before) (.inr before)
  · simp only [effect]
    split
    · exact length_attached inv.length (fun absent => Nat.lt_of_lt_of_le (safe absent) (Nat.le_max_left _ _)) _ _
    · rcases detached_eq w.members (app.label u) ‹_› happened with same | fewer
      · rw [same]
        exact inv.length
      · rw [fewer]
        exact Nat.le_trans (List.length_filter_le _ _) inv.length
    · exact inv.length

/-! ### Rules -/

/-- The knowledge of a unit about its hook. -/
def Known (app : Application) (u : UnitId) (P : Progress → Prop) (w : World) : Prop := u ∈ app.units ∧ P (w.hook u)

theorem stable_known : (contract app bound).Stable u (Known app u P) := by
  rintro w w' _ _ ⟨unit,holds⟩ (hook | ⟨v,other,guarantee⟩)
  · exact ⟨unit,by rw [show w'.hook = w.hook from hook]; exact holds⟩
  · exact ⟨unit,by rw [guarantee u (Ne.symm other)]; exact holds⟩

theorem takes_known {c : Call} {Q : Except Exn (Reply c) → Progress → Prop}
    (safe : ∀ w, Inv app bound w → u ∈ app.units → P (w.hook u) → (contract app bound).safe w u c)
    (learns : ∀ p r, P p → Q r (p.after (app.label u) c r)) :
    (contract app bound).Takes (system app) u c (Known app u P) (fun r => Known app u (Q r)) := by
  intro w inv known
  have safe := safe w inv known.1 known.2
  refine ⟨safe,fun raw happened allowed => ⟨inv_effect inv safe known.1 allowed,fun v other => ?_,known.1,?_⟩⟩
  · exact update_of_ne other ..
  · show Q _ (update w.hook u _ u)
    rw [update_self]
    exact learns _ _ known.2

variable (app bound u) in
/-- The knowledge of a unit, for the rules. -/
def view : Contract.Local (contract app bound) (system app) u Progress where
  knows := Known app u
  mono weaker known := ⟨known.1,weaker _ known.2⟩
  stable _ := stable_known
  void _ := takes_known (fun _ _ _ gone => gone.elim) (fun _ _ gone => gone)

def Attaches (c : Call) : Prop := ∃ at_ label host method, c = .attachInstance at_ label host method

theorem safe_of_mild {c : Call} (mild : ¬ Attaches c) (w : World) : (contract app bound).safe w u c := by
  unfold contract
  dsimp only
  split
  · exact absurd ⟨_,_,_,_,rfl⟩ mild
  · trivial

theorem goes_call {c : Call} {Q : Except Exn (Reply c) → Progress → Prop}
    (safe : ∀ w, Inv app bound w → u ∈ app.units → P (w.hook u) → (contract app bound).safe w u c)
    (learns : ∀ p r, P p → Q r (p.after (app.label u) c r)) : (view app bound u).Goes (ask c) P Q :=
  goes_perform (takes_known safe learns)

theorem goes_mild {c : Call} {Q : Except Exn (Reply c) → Progress → Prop} (mild : ¬ Attaches c)
    (learns : ∀ p r, P p → Q r (p.after (app.label u) c r)) : (view app bound u).Goes (ask c) P Q :=
  goes_call (fun w _ _ _ => safe_of_mild mild w) learns

/-- Calls after which a hook is as far as it was. -/
def plain : Call → Bool
  | .appData _ | .unitData _ | .clusterLabels _ | .clusterStatus .own | .attachInstance _ _ _ _ => false
  | _ => true

theorem after_plain {c : Call} (calm : plain c = true) (p : Progress) (label : String) (r : Except Exn (Reply c)) :
    p.after label c r = p := by
  unfold Progress.after
  split <;> first | rfl | cases calm

/-- What makes only plain calls keeps everything. -/
theorem goes_plain {p : Hook α} (avoids : Avoids (fun c => plain c = false) p) :
    (view app bound u).Goes p P (fun _ => P) := by
  refine goes_frame (fun c calm => takes_known (fun w _ _ _ => ?_) (fun p r holds => ?_)) avoids
  · refine safe_of_mild ?_ w
    rintro ⟨_,_,_,_,rfl⟩
    exact calm rfl
  · rw [after_plain (by simpa using calm)]
    exact holds

/-- What attaches no instance needs to know nothing. -/
theorem goes_free {p : Hook α} (avoids : Avoids Attaches p) : (view app bound u).Goes p P (fun _ _ => True) := by
  have framed : (view app bound u).Goes p (fun _ => True) (fun _ _ => True) := by
    refine goes_frame (fun c mild => ?_) avoids
    exact @takes_known app bound u (fun _ => True) c (fun _ _ => True) (fun w _ _ _ => safe_of_mild mild w)
      (fun _ _ _ => trivial)
  exact goes_pre framed (fun _ _ => trivial)

theorem mild_of_quiet {p : Hook α} (avoids : Avoids Loud p) : Avoids Attaches p := by
  refine avoids_mono (fun c attaches => ?_) avoids
  obtain ⟨_,_,_,_,rfl⟩ := attaches
  rfl

/-! ### The check -/

theorem goes_clusterName :
    (view app bound u).Goes clusterName P (fun r p => ∀ name, r = .ok name → p.name = name) := by
  refine goes_bind (M := fun r p => ∀ name, r = .ok name → p.name = (nonEmpty name).getD "")
    (goes_mild nofun fun p r _ name answered => ?_) (fun name => goes_pure fun p named _ same => ?_)
    (fun _ _ _ => nofun)
  · rw [answered]
    simp [Progress.after]
  · cases same
    exact named name rfl

theorem goes_waiting (name : String) :
    (view app bound u).Goes (ask (.unitData "member-state")) (fun p => p.name = name)
      (fun r p => ∀ published, r = .ok published → nonEmpty published = some "waiting" →
        p.phase = .checking ∧ p.name = name) := by
  refine goes_mild nofun fun p r named published answered waits => ?_
  rw [answered]
  simp [Progress.after,waits,named]

/-- A unit that does not know the cluster goes on to join it. -/
theorem goes_labelled (name : String) :
    (view app bound u).Goes InstanceClient.fetchClusterLabels (fun p => p.phase = .checking ∧ p.name = name)
      (fun r p => ∀ labels, r = .ok labels →
        p.phase = if labels.contains name then .checking else .joining) := by
  refine goes_tryElse (M := fun r p => ∀ labels, labelsOf r = some labels →
    p.phase = if labels.contains name then .checking else .joining)
    (goes_mild nofun fun p r known labels answered => ?_)
    (fun e caught => goes_pure fun p known labels same => ?_) (fun labels => goes_pure fun p known _ same => ?_)
    (fun _ _ _ _ => nofun)
  · simp only [Progress.after,known.1,known.2,answered]
    split
    · exact known.1
    · rfl
  · cases same
    exact known [] (by simp [labelsOf,caught])
  · cases same
    exact known labels rfl

/-- One that the topology does not list as healthy goes on, unless it lists exactly the
    maximum. -/
theorem goes_listed :
    (view app bound u).Goes (ClusterClient.fetchInstances .own) (fun p => p.phase = .checking)
      (fun r p => ∀ topology, r = .ok topology → topology.length ≠ clusterMaxSize →
        healthyIn topology (app.label u) = false → p.phase = .joining) := by
  refine goes_tryElse (M := fun r p => ∀ topology, topologyOf r = some topology → topology.length ≠ clusterMaxSize →
    healthyIn topology (app.label u) = false → p.phase = .joining)
    (goes_mild nofun fun p r known topology answered => ?_)
    (fun e caught => goes_pure fun p known topology same => ?_) (fun report => goes_pure fun p known _ same => ?_)
    (fun _ _ _ _ => nofun)
  · intro other absent
    simp [Progress.after,known,answered,other,absent]
  · cases same
    exact known [] (by simp [topologyOf,caught])
  · cases same
    exact known report.topology rfl

/-- The check lets a unit join only where it says so in its own progress. -/
theorem goes_checkInstanceJoinCluster (name : String) :
    (view app bound u).Goes (checkInstanceJoinCluster name (app.label u)) (fun p => p.name = name)
      (fun r p => r = .ok true → p.phase = .joining) := by
  unfold checkInstanceJoinCluster
  refine goes_bind (goes_waiting name) (fun published => ?_) (fun _ _ _ => nofun)
  refine goes_ite _ (fun _ => goes_pure fun _ _ => nofun) (fun waits => ?_)
  have found : nonEmpty published = some "waiting" := by
    cases state : nonEmpty published with
    | none => simp [state] at waits
    | some state' => simpa [state] using waits
  refine goes_bind (goes_pre (goes_labelled name) fun p known => known published rfl found) (fun labels => ?_)
    (fun _ _ _ => nofun)
  refine goes_ite _ (fun lacks => goes_pure fun p known _ => ?_) (fun member => ?_)
  · have phase := known labels rfl
    rw [lacks] at phase
    exact phase
  refine goes_bind (goes_pre goes_listed fun p known => ?_) (fun instances => ?_) (fun _ _ _ => nofun)
  · have phase := known labels rfl
    rw [if_pos (by simpa using member)] at phase
    exact phase
  refine goes_ite _ (fun _ => goes_pure fun _ _ => nofun) (fun other => ?_)
  refine goes_ite _ (fun _ => goes_pure fun _ _ => nofun) (fun absent => ?_)
  refine goes_pure fun p known _ => known instances rfl other ?_
  by_contra present
  exact absent (healthyIn_iff.mp (by simpa using present))

/-! ### The addition -/

theorem plain_acquireLock (at_ : Target) (label task : String) :
    Avoids (fun c => plain c = false) (ClusterClient.acquireLock at_ label task) :=
  avoids_bind (avoids_ask (by simp [plain])) fun _ => avoids_ite _ (fun _ => trivial) (fun _ => trivial)

theorem plain_releaseLock (at_ : Target) (label task : String) :
    Avoids (fun c => plain c = false) (ClusterClient.releaseLock at_ label task) :=
  avoids_bind (avoids_ask (by simp [plain])) fun _ => avoids_ite _ (fun _ => trivial) (fun _ => trivial)

/-- A unit that has passed the check attaches its own instance, which has room. -/
theorem safe_of_joining {w : World} (inv : Inv app bound w) (unit : u ∈ app.units)
    (joining : (w.hook u).phase = .joining) (at_ : Target) (host method : String) :
    (contract app bound).safe w u (.attachInstance at_ (app.label u) host method) :=
  room_of_absent (inv.room u unit joining)

/-- Both attempts are made with the room of the unit. -/
theorem goes_addInstance (at_ : Target) (host : String) :
    (view app bound u).Goes (ClusterClient.addInstance at_ (app.label u) host) (fun p => p.phase = .joining)
      (fun _ _ => True) := by
  have auto : (view app bound u).Goes (ask (.attachInstance at_ (app.label u) host "auto"))
      (fun p => p.phase = .joining)
      (fun r p => ∀ e, r = .error e → e.isExecutionError = true → p.phase = .joining) := by
    refine goes_call (fun w inv unit joining => safe_of_joining inv unit joining at_ host "auto") ?_
    intro p r joining e failed execution
    rw [failed]
    simpa [Progress.after,execution] using joining
  have clone : (view app bound u).Goes (ask (.attachInstance at_ (app.label u) host "clone"))
      (fun p => p.phase = .joining) (fun _ _ => True) :=
    goes_call (fun w inv unit joining => safe_of_joining inv unit joining at_ host "clone") (fun _ _ _ => trivial)
  refine goes_bind (goes_plain (avoids_retry (plain_acquireLock _ _ _) _)) (fun _ => ?_) (fun _ _ _ => trivial)
  refine goes_finallyDo (M := fun _ _ => True) (N := fun _ _ _ => True) ?_
    (fun _ => goes_post (goes_plain (plain_releaseLock _ _ _)) fun _ _ _ => trivial) (fun _ _ _ => trivial)
    (fun _ _ _ _ => trivial)
  refine goes_tryElse auto (fun e caught => goes_pre clone fun p known => known e rfl caught)
    (fun _ => goes_pure fun _ _ => trivial) (fun _ _ _ _ => trivial)

theorem plain_removeInstance (primary label host : String) :
    Avoids (fun c => plain c = false) (ClusterClient.removeInstance (.host primary) label host) := by
  have primaryHost : Avoids (fun c => plain c = false) (ClusterClient.fetchPrimaryHost (.host primary)) := by
    refine avoids_tryElse (avoids_ask (by simp [plain])) (fun _ => trivial) fun status => ?_
    refine avoids_ite _ (fun _ => trivial) fun _ => ?_
    cases status.primary with
    | none => trivial
    | some address => trivial
  refine avoids_bind primaryHost fun _ => avoids_ite _ (fun _ => trivial) fun _ => ?_
  refine avoids_bind (avoids_retry (plain_acquireLock _ _ _) _) fun _ => ?_
  exact avoids_finallyDo (avoids_ask (by simp [plain])) (plain_releaseLock _ _ _)

theorem goes_joinInstance (host : String) (addresses : List String) :
    (view app bound u).Goes (joinInstance (app.label u) host addresses) (fun p => p.phase = .joining)
      (fun _ _ => True) := by
  unfold joinInstance
  refine goes_bind (goes_plain (avoids_findClusterPrimary (fun _ => by simp [plain]) addresses)) (fun primary => ?_)
    (fun _ _ _ => trivial)
  cases primary with
  | none => exact goes_pure fun _ _ => trivial
  | some primary =>
    have listed : Avoids (fun c => plain c = false) (ClusterClient.fetchInstances (.host primary)) :=
      avoids_tryElse (avoids_ask (by simp [plain])) (fun _ => trivial) fun _ => trivial
    have added : (view app bound u).Goes (do
        ClusterClient.addInstance (.host primary) (app.label u) host
        ClusterManager.updateState) (fun p => p.phase = .joining) (fun _ _ => True) := by
      refine goes_bind (goes_addInstance _ host) (fun _ => goes_free ?_) (fun _ _ _ => trivial)
      refine avoids_bind (mild_of_quiet (quiet_ask rfl)) fun role => ?_
      refine avoids_bind (mild_of_quiet (quiet_ask rfl)) fun state => ?_
      exact avoids_bind (avoids_ask nofun) fun _ => avoids_ask nofun
    refine goes_bind (goes_plain (avoids_ask (by simp [plain]))) (fun _ => ?_) (fun _ _ _ => trivial)
    refine goes_bind (goes_plain listed) (fun instances => goes_ite _ (fun _ => ?_) (fun _ => added))
      (fun _ _ _ => trivial)
    refine goes_bind (goes_plain (plain_removeInstance _ _ _)) (fun _ => ?_) (fun _ _ _ => trivial)
    exact goes_bind (goes_plain (avoids_ask (by simp [plain]))) (fun _ => added) (fun _ _ _ => trivial)

/-! ### The hook -/

theorem goes_onRelationChanged :
    (view app bound u).Goes (onRelationChanged (app.charm u)) (fun _ => True) (fun _ _ => True) := by
  have free {γ : Type} {p : Hook γ} {P : Progress → Prop} (quiet : Avoids Loud p) :
      (view app bound u).Goes p P (fun _ _ => True) := goes_free (mild_of_quiet quiet)
  unfold onRelationChanged
  refine goes_bind (free (quiet_updateDatabaseEndpoints _)) (fun _ => ?_) (fun _ _ _ => trivial)
  refine goes_bind (free (quiet_ask rfl)) (fun peers => ?_) (fun _ _ _ => trivial)
  cases peers with
  | none => exact goes_free (avoids_ask nofun)
  | some peers =>
    refine goes_bind (free (quiet_collectPeerAddresses _)) (fun addresses => ?_) (fun _ _ _ => trivial)
    refine goes_ite _ (fun _ => goes_free (avoids_ask nofun)) (fun _ => ?_)
    refine goes_bind goes_clusterName (fun name => ?_) (fun _ _ _ => trivial)
    refine goes_bind (goes_plain (avoids_getUnitAddress (by simp [plain]) (fun _ => by simp [plain]) _ _ _))
      (fun host => ?_) (fun _ _ _ => trivial)
    refine goes_bind (goes_pre (goes_checkInstanceJoinCluster name) fun p known => known name rfl) (fun joins => ?_)
      (fun _ _ _ => trivial)
    refine goes_ite _ (fun yes => ?_) (fun _ => goes_pure fun _ _ => trivial)
    refine goes_bind (goes_pre (goes_joinInstance host addresses) fun p known => known (by rw [yes])) (fun _ => ?_)
      (fun _ _ _ => trivial)
    exact free (avoids_bind quiet_buildUnitStatus fun _ => quiet_setUnitStatus _)

/-- A hook that has just begun, or is over, has passed no check. -/
theorem inv_idle {w : World} (inv : Inv app bound w) (u : UnitId) :
    Inv app bound { w with hook := update w.hook u ⟨"",.idle⟩ } := by
  refine ⟨fun v member joining => ?_,inv.length⟩
  by_cases own : v = u
  · subst own
    simp at joining
  · exact inv.room v member (by simpa [update_of_ne own] using joining)

theorem begins (w : World) (u : UnitId) (job : Job) (w' : World) (inv : Inv app bound w)
    (begun : begin_ app w u = some w') :
    Inv app bound w' ∧ (contract app bound).guarantee u w w' ∧ (duties app).starts u job w' := by
  unfold begin_ at begun
  split at begun
  · rename_i unit
    cases begun
    exact ⟨inv_idle inv u,fun v other => update_of_ne other ..,unit⟩
  · cases begun

theorem fulfils : (contract app bound).Fulfils (system app) (duties app) where
  begins := begins
  finishes w u _ _ inv _ := ⟨inv_idle inv u,fun v other => update_of_ne other ..⟩
  acts w a inv _ := by
    cases a with
    | leave label =>
      refine ⟨⟨fun v member joining => ?_,?_⟩,rfl⟩
      · exact room_filter (inv.room v member joining) _
      · exact Nat.le_trans (List.length_filter_le _ _) inv.length
  jobs u _ := Contract.outline_post (Contract.outline_pre goes_onRelationChanged fun _ _ unit => ⟨unit,trivial⟩)
    (fun _ _ _ _ => trivial)
  lasts u _ _ := (contract app bound).stable_const u True

end

/-- From every world in which no hook is under way, in every order of relation-changed
    hooks and departures whose steps meet the condition. -/
theorem respectsMaximum_of_roomy (app : Application) (w : World)
    (labels : List (Label UnitId Job Call Reply Exn Act)) (fresh : ∀ u, (w.hook u).phase = .idle)
    (allowed : (system app).allAllowed (roomy app) (idle w) labels = true) :
    RespectsMaximum w ((system app).run (idle w) labels) := by
  have inv : Inv app w.members.length w := by
    refine ⟨fun u _ joining => ?_,Nat.le_max_right _ _⟩
    rw [fresh u] at joining
    cases joining
  have bound := Contract.bound_run (@fulfils app w.members.length) (Contract.bound_idle inv) labels allowed
  exact ⟨fun u at_ label host method next => Contract.safe_of_bound bound next,bound.1.length⟩

/-- The tenth unit of an application that runs on machines. -/
def tenth : Application := ⟨[9],fun u => ⟨.vm,"mysql",u,"cluster",""⟩⟩

def full : List String :=
  ["mysql-0","mysql-1","mysql-2","mysql-3","mysql-4","mysql-5","mysql-6","mysql-7","mysql-8"]

def clusterOf (members : List String) : World := ⟨members,fun _ => ⟨"",.idle⟩⟩

/-- Every call succeeds; the unit waits to join, and its server knows no cluster. -/
def replies (members : List String) : (c : Call) → Except Exn (Reply c)
  | .snapPresent => .ok true
  | .snapServiceActive => .ok true
  | .peersRelation =>
    .ok (some ⟨[(0,[("database-peers-address","10.0.0.1")])],[("database-peers-address","10.0.0.10")],0⟩)
  | .appData _ => .ok (some "cluster")
  | .unitData _ => .ok (some "waiting")
  | .clusterLabels _ => .ok []
  | .clusterSetStatus _ => .ok ⟨"cluster",[("cluster",⟨"OK",some "10.0.0.1:3306"⟩)]⟩
  | .clusterStatus _ =>
    .ok ⟨.primary,.ok,some "10.0.0.1:3306",members.map fun label => (label,⟨.online,"R/O",none,none⟩)⟩
  | .executeSql _ (.lockAcquire _ label) => .ok [label]
  | _ => .ok default

/-- The unit runs relation-changed for a number of calls. -/
def changed (members : List String) (calls : Nat) : List (Label UnitId Job Call Reply Exn Act) :=
  .start 9 .relationChanged :: List.replicate calls (.call 9 (replies members) false)

/-- A member has left, and the unit takes its place. -/
theorem respectsMaximum_joins :
    ((system tenth).run (idle (clusterOf full.tail)) (changed full.tail 16)).world.members.length = 9 ∧
      RespectsMaximum (clusterOf full.tail) ((system tenth).run (idle (clusterOf full.tail)) (changed full.tail 16)) :=
  ⟨by decide +kernel,respectsMaximum_of_roomy tenth (clusterOf full.tail) (changed full.tail 16) (fun _ => rfl)
    (by decide +kernel)⟩

/-- The size of the cluster is asked for only by a unit whose server knows the cluster. -/
theorem full_grows :
    ¬ ∀ (app : Application) (w : World) (labels : List (Label UnitId Job Call Reply Exn Act)),
      (∀ u, (w.hook u).phase = .idle) → RespectsMaximum w ((system app).run (idle w) labels) := by
  intro always
  have next : ((system tenth).run (idle (clusterOf full)) (changed full 15)).next 9 =
      some (.attachInstance (.host "10.0.0.1") "mysql-9" "10.0.0.10" "auto") := by decide +kernel
  have absent : "mysql-9" ∉ ((system tenth).run (idle (clusterOf full)) (changed full 15)).world.members := by
    decide +kernel
  have room := (always tenth (clusterOf full) (changed full 15) (fun _ => rfl)).1 9 _ _ _ _ next absent
  have nine : ((system tenth).run (idle (clusterOf full)) (changed full 15)).world.members.length = 9 := by
    decide +kernel
  rw [nine] at room
  exact Nat.lt_irrefl _ room

end MysqlOperators.ClusterSize
