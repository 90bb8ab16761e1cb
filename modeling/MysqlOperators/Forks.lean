import MysqlOperators.Footprint
import MysqlOperators.Interleaving

/-!
Self-healing on all the units at once. The units of an application run their
update-status, self-healing and relation-changed hooks in any order, a call at a
time, while instances fail, come back and catch up. What a unit writes to its
databag is seen by the others once its hook has returned. The leader recreates the
cluster on the word of these databags: no other unit may be ONLINE when it does.
-/
namespace MysqlOperators.Forks
open MysqlOperators.Program MysqlOperators.Program.Prog MysqlOperators.External MysqlOperators.Clients
open MysqlOperators.Workload MysqlOperators.Helpers MysqlOperators.SelfHealing MysqlOperators.Quiet
open MysqlOperators.Footprint MysqlOperators.Interleaving

/-! ### The application -/

structure Application where
  units : List UnitId
  leader : UnitId
  charm : UnitId → Charm

/-- The states of the instances, the databags as the others see them and as their
    own units have written them, and the last call of each unit. -/
structure World where
  state : UnitId → InstanceState
  published : UnitId → Databag
  written : UnitId → Databag
  last : UnitId → Option Call

inductive Job where
  | updateStatus
  | selfHealing
  | relationChanged
deriving DecidableEq, Repr

inductive Act where
  /-- A crash, a restart, a shutdown or an expulsion. -/
  | leaves (u : UnitId) (state : InstanceState)
  /-- An automatic rejoin. -/
  | returns (u : UnitId)
  | catchesUp (u : UnitId)
deriving DecidableEq, Repr

namespace World

def setState (w : World) (u : UnitId) (state : InstanceState) : World :=
  { w with state := fun v => if v = u then state else w.state v }

def write (w : World) (u : UnitId) (key value : String) : World :=
  { w with written := fun v => if v = u then updated (w.written u) key value else w.written v }

/-- Juju publishes what a hook has written when it returns, else drops it. -/
def finish (w : World) (u : UnitId) (_ : Job) : Except Exn Unit → World
  | .ok _ => { w with published := fun v => if v = u then w.written u else w.published v }
  | .error _ => { w with written := fun v => if v = u then w.published u else w.written v }

end World

namespace Application
variable (app : Application)

def othersOnline (w : World) (u : UnitId) : Bool := app.units.any (fun v => v != u && w.state v == .online)

def nobodyOnline (w : World) : Bool := app.units.all (fun v => w.state v != .online)

/-- An instance enters the group of another one and recovers from it. -/
def enters (w : World) (u : UnitId) : World := if app.othersOnline w u then w.setState u .recovering else w

def program (u : UnitId) : Job → Hook Unit
  | .updateStatus => Lifecycle.onUpdateStatus (app.charm u)
  | .selfHealing => onSelfHealing (app.charm u)
  | .relationChanged => Cluster.onRelationChanged (app.charm u)

/-- MySQL Shell refuses to reboot a cluster with another member that is ONLINE. -/
def answer (w : World) (u : UnitId) : (c : Call) → Except Exn (Reply c) → Except Exn (Reply c)
  | .isLeader, .ok _ => .ok (u == app.leader)
  | .peersRelation, .ok _ =>
    .ok (some ⟨(app.units.filter (· != u)).map (fun v => (v,w.published v)),w.written u,0⟩)
  | .unitData key, .ok _ => .ok ((w.written u).lookup key)
  | .instanceState .own, .ok _ => .ok (some (w.state u))
  | .rebootCluster .own, .ok _ =>
    if app.othersOnline w u then .error ⟨.executionError,"The cluster is reachable from other instances"⟩ else .ok ()
  | _, r => r

/-- What a call changes. The handlers attach, rejoin and detach only the instance
    of their own unit. -/
def change (w : World) (u : UnitId) : Call → World
  | .setUnitData key value => w.write u key value
  | .rebootCluster .own | .createCluster .own => w.setState u .online
  | .stopReplication .own | .detachInstance _ _ => w.setState u .offline
  | .rejoinInstance _ _ | .attachInstance _ _ _ _ => app.enters w u
  | _ => w

def effect (w : World) (u : UnitId) (c : Call) (r : Except Exn (Reply c)) (happened : Bool) : World :=
  let changed := match r with
    | .ok _ => app.change w u c
    | .error _ => if happened then app.change w u c else w
  { changed with last := fun v => if v = u then some c else changed.last v }

def act (w : World) : Act → World
  | .leaves u state => if state = .online then w else w.setState u state
  | .returns u => app.enters w u
  | .catchesUp u => if w.state u = .recovering ∧ app.othersOnline w u then w.setState u .online else w

def system : System UnitId Job Call Reply Exn Unit World Act where
  program := app.program
  answer := app.answer
  effect := app.effect
  begin_ w _ _ := some w
  finish := World.finish
  act := app.act

end Application

/-- The calls of `recreate_cluster` that drop and create. -/
def recreates : Call → Bool
  | .dropMetadata _ | .createCluster _ => true
  | _ => false

/-- No unit is about to recreate the cluster while another one is ONLINE. -/
def ForkFree (app : Application) (s : State UnitId Job Call Reply Exn Unit World) : Prop :=
  ∀ u c, s.next u = some c → recreates c = true → app.othersOnline s.world u = false

/-- When the OFFLINE leader reads an outage from the databags of its peers, no unit
    is ONLINE, and a reboot that raises has changed nothing. -/
def upToDate (app : Application) : Condition UnitId Call Reply Exn World Act where
  call w u c r happened :=
    match c,r with
    | .peersRelation, .ok peers =>
      !(u == app.leader && w.last u == some .isLeader && outageStates (peerStatesOf peers)) || app.nobodyOnline w
    | .rebootCluster .own, .error _ => !happened
    | _, _ => true
  act _ _ := true

/-! ### Steps -/

section
variable (app : Application)

/-- Calls that bring the own instance back on its own, or prepare it. -/
def restores : Call → Bool
  | .rebootCluster _ | .dropMetadata _ | .createCluster _ => true
  | _ => false

/-- The calls of `restores` that set the instance ONLINE. -/
def boots : Call → Bool
  | .rebootCluster _ | .createCluster _ => true
  | _ => false

theorem restores_loud (c : Call) (h : restores c = true) : Loud c := by
  unfold restores at h
  split at h
  · rfl
  · rfl
  · rfl
  · cases h

variable {app}

theorem othersOnline_of_nobody {w : World} (nobody : app.nobodyOnline w = true) (u : UnitId) :
    app.othersOnline w u = false := by
  rw [Application.nobodyOnline,List.all_eq_true] at nobody
  rw [Application.othersOnline,List.any_eq_false]
  intro v member both
  have := nobody v member
  simp_all

theorem nobody_setState {w : World} (nobody : app.nobodyOnline w = true) (u : UnitId) {state : InstanceState}
    (other : state ≠ .online) : app.nobodyOnline (w.setState u state) = true := by
  rw [Application.nobodyOnline,List.all_eq_true] at nobody ⊢
  intro v member
  by_cases same : v = u
  · simp [World.setState,same,other]
  · simpa [World.setState,same] using nobody v member

theorem nobody_enters {w : World} (nobody : app.nobodyOnline w = true) (u : UnitId) :
    app.nobodyOnline (app.enters w u) = true := by
  rw [Application.enters,othersOnline_of_nobody nobody u]
  exact nobody

theorem nobody_change {w : World} (nobody : app.nobodyOnline w = true) (u : UnitId) {c : Call}
    (other : boots c = false) : app.nobodyOnline (app.change w u c) = true := by
  unfold Application.change
  split
  · exact nobody
  · cases other
  · cases other
  · exact nobody_setState nobody u (by decide)
  · exact nobody_setState nobody u (by decide)
  · exact nobody_enters nobody u
  · exact nobody_enters nobody u
  · exact nobody

theorem nobody_effect {w : World} (nobody : app.nobodyOnline w = true) (u : UnitId) {c : Call}
    (other : boots c = false) (r : Except Exn (Reply c)) (happened : Bool) :
    app.nobodyOnline (app.effect w u c r happened) = true := by
  have changed := nobody_change nobody u other
  cases r with
  | ok a => exact changed
  | error e =>
    cases happened with
    | true => exact changed
    | false => exact nobody

theorem nobody_act {w : World} (nobody : app.nobodyOnline w = true) (a : Act) :
    app.nobodyOnline (app.act w a) = true := by
  cases a with
  | leaves u state =>
    by_cases online : state = .online
    · simpa [Application.act,online] using nobody
    · simpa [Application.act,online] using nobody_setState nobody u online
  | returns u => exact nobody_enters nobody u
  | catchesUp u =>
    have none := othersOnline_of_nobody nobody u
    simpa [Application.act,none] using nobody

theorem last_change (w : World) (u : UnitId) (c : Call) : (app.change w u c).last = w.last := by
  unfold Application.change Application.enters
  split <;> first | rfl | (split <;> rfl)

theorem last_effect (w : World) (u : UnitId) (c : Call) (r : Except Exn (Reply c)) (happened : Bool) :
    (app.effect w u c r happened).last u = some c ∧
      ∀ v, v ≠ u → (app.effect w u c r happened).last v = w.last v := by
  refine ⟨by simp [Application.effect],fun v other => ?_⟩
  simp only [Application.effect,if_neg other]
  split
  · rw [last_change]
  · split
    · rw [last_change]
    · rfl

theorem last_act (w : World) (a : Act) : (app.act w a).last = w.last := by
  unfold Application.act Application.enters
  split <;> (try split) <;> rfl

/-! ### The contract -/

/-- Nothing is assumed of the world. While no unit is ONLINE, units other than the
    leader bring none back. -/
def contract (app : Application) : Contract UnitId Call Reply Exn World Act where
  condition := upToDate app
  inv _ := True
  guarantee u w w' :=
    (u ≠ app.leader → app.nobodyOnline w = true → app.nobodyOnline w' = true) ∧ ∀ v, v ≠ u → w'.last v = w.last v
  environment w w' := (app.nobodyOnline w = true → app.nobodyOnline w' = true) ∧ w'.last = w.last
  safe w u c := recreates c = true → app.othersOnline w u = false

theorem stable_nobody : (contract app).Stable app.leader (fun w => app.nobodyOnline w = true) := by
  rintro w w' _ _ holds (environment | ⟨v,other,guarantee⟩)
  · exact environment.1 holds
  · exact guarantee.1 other holds

theorem stable_last (u : UnitId) (c : Call) : (contract app).Stable u (fun w => w.last u = some c) := by
  rintro w w' _ _ holds (environment | ⟨v,other,guarantee⟩)
  · show w'.last u = some c
    rw [environment.2]
    exact holds
  · show w'.last u = some c
    rw [guarantee.2 u (Ne.symm other)]
    exact holds

/-- A call that does not drop or create is safe whatever is known, and those of a
    unit other than the leader bring no instance back. -/
theorem takes_any {u : UnitId} {c : Call} {L : World → Prop} (plain : recreates c = false)
    (follower : u ≠ app.leader → boots c = false) :
    (contract app).Takes app.system u c L (fun _ w => w.last u = some c) := by
  refine fun w _ _ => ⟨fun recreate => ?_,fun reply happened _ => ⟨trivial,⟨fun other nobody => ?_,?_⟩,?_⟩⟩
  · rw [plain] at recreate
    cases recreate
  · exact nobody_effect nobody u (follower other) _ _
  · exact (last_effect w u c _ _).2
  · exact (last_effect w u c _ _).1

theorem keeps_avoids {u : UnitId} {α : Type} {p : Hook α} (avoids : Avoids (fun c => restores c = true) p) :
    (contract app).Outline app.system u p (fun _ => True) (fun _ _ => True) := by
  refine Contract.outline_frame ((contract app).stable_const u True) (fun c other => ?_) avoids
  have calm : recreates c = false ∧ boots c = false := by
    cases c <;> first | exact ⟨rfl,rfl⟩ | exact absurd rfl other
  intro w inv holds
  obtain ⟨safe,effects⟩ := takes_any (L := fun _ => True) calm.1 (fun _ => calm.2) w inv holds
  exact ⟨safe,fun reply happened allowed =>
    ⟨(effects reply happened allowed).1,(effects reply happened allowed).2.1,trivial⟩⟩

theorem takes_nobody {c : Call} (other : boots c = false) :
    (contract app).Takes app.system app.leader c (fun w => app.nobodyOnline w = true)
      (fun _ w => app.nobodyOnline w = true) := by
  refine fun w _ nobody => ⟨fun _ => othersOnline_of_nobody nobody _,fun reply happened _ => ⟨trivial,⟨?_,?_⟩,?_⟩⟩
  · exact fun leads => absurd rfl leads
  · exact (last_effect w _ c _ _).2
  · exact nobody_effect nobody _ other _ _

theorem outline_nobody {α : Type} {p : Hook α} (avoids : Avoids (fun c => boots c = true) p) :
    (contract app).Outline app.system app.leader p (fun w => app.nobodyOnline w = true)
      (fun _ w => app.nobodyOnline w = true) :=
  Contract.outline_frame stable_nobody (fun _ other => takes_nobody (by simpa using other)) avoids

theorem boots_restores (c : Call) (h : boots c = true) : restores c = true := by
  unfold boots at h
  split at h
  · rfl
  · rfl
  · cases h

/-! ### The hooks -/

theorem boots_loud (c : Call) (h : boots c = true) : Loud c := restores_loud c (boots_restores c h)

/-- A reboot that raises leaves every instance as it was. -/
theorem outline_reboot :
    (contract app).Outline app.system app.leader ClusterClient.reboot (fun w => app.nobodyOnline w = true)
      (fun r w => (∃ e, r = .error e) → app.nobodyOnline w = true) := by
  refine Contract.outline_perform stable_nobody fun w _ nobody =>
    ⟨fun recreate => (by cases recreate),fun reply happened allowed => ⟨trivial,⟨fun leads => absurd rfl leads,?_⟩,?_⟩⟩
  · exact (last_effect w _ _ _ _).2
  · rintro ⟨e,fails⟩
    simp only [Application.system] at fails allowed ⊢
    rw [fails] at allowed ⊢
    have unchanged : happened = false := by simpa [contract,upToDate] using allowed
    rw [unchanged]
    exact nobody

theorem outline_quorum :
    (contract app).Outline app.system app.leader (do stopReplication; recoverClusterQuorum : Hook Unit)
      (fun w => app.nobodyOnline w = true) (fun r w => (∃ e, r = .error e) → app.nobodyOnline w = true) := by
  have stopping : Avoids (fun c => boots c = true) stopReplication :=
    avoids_tryExcept (avoids_ask (by decide)) (fun _ => trivial)
  have counting := avoids_quiet boots_loud (quiet_countClusterMembers [.unreachable])
  refine Contract.outline_bind (outline_nobody stopping) (fun _ => ?_) (fun _ _ _ nobody _ => nobody)
  refine Contract.outline_bind (outline_nobody counting) (fun n => ?_) (fun _ _ _ nobody _ => nobody)
  refine Contract.outline_ite _ (fun _ => ?_) (fun _ => outline_reboot)
  exact fun _ _ nobody _ => nobody

theorem keeps_recreate (label : String) :
    (contract app).Keeps app.system app.leader (SelfHealing.recreateCluster label)
      (fun w => app.nobodyOnline w = true) := by
  have creating : (contract app).Takes app.system app.leader (.createCluster .own)
      (fun w => app.nobodyOnline w = true) (fun _ _ => True) := fun w _ nobody =>
    ⟨fun _ => othersOnline_of_nobody nobody _,fun reply happened _ =>
      ⟨trivial,⟨fun leads => absurd rfl leads,(last_effect w _ _ _ _).2⟩,trivial⟩⟩
  have naming : Avoids (fun c => restores c = true) (ask (.updateInstance .own "label" label)) :=
    avoids_ask (by simp [restores])
  have listing : Avoids (fun c => restores c = true) (do ClusterSetClient.create; ClusterClient.rescan .own : Hook Unit) :=
    avoids_bind (avoids_ask (by decide)) (fun _ => avoids_ask (by decide))
  have locks : Avoids (fun c => boots c = true) ClusterClient.initLocksTable :=
    avoids_bind (avoids_ask (by decide)) (fun _ => trivial)
  refine Contract.keeps_bind (outline_nobody (avoids_ask (by decide))) fun _ => ?_
  refine Contract.keeps_bind (outline_nobody locks) fun _ => ?_
  refine Contract.keeps_bind (M := fun _ _ => True) ?_ fun _ => keeps_avoids listing
  refine Contract.outline_bind (Contract.outline_perform stable_nobody creating) (fun _ => keeps_avoids naming) ?_
  exact fun _ _ _ _ => trivial

theorem rejoin_restores (charm : Charm) : Avoids (fun c => restores c = true) (rejoinInstance charm) :=
  avoids_rejoinInstance restores_loud (by simp [restores]) (by simp [restores]) charm

/-- The answer that the OFFLINE leader decides on. -/
theorem outline_read :
    (contract app).Outline app.system app.leader (ask .peersRelation) (fun w => w.last app.leader = some .isLeader)
      (fun r w => ∀ peers, r = .ok peers → outageStates (peerStatesOf peers) = true →
        app.nobodyOnline w = true) := by
  refine Contract.outline_perform (stable_last _ _) fun w inv last => ⟨fun recreate => (by cases recreate),?_⟩
  intro reply happened allowed
  refine ⟨trivial,⟨fun leads => absurd rfl leads,(last_effect w _ _ _ _).2⟩,fun peers answered outage => ?_⟩
  simp only [Application.system] at answered allowed ⊢
  rw [answered] at allowed ⊢
  have nobody : app.nobodyOnline w = true := by simpa [contract,upToDate,last,outage] using allowed
  exact nobody_effect nobody _ rfl _ _

theorem keeps_offlineLeader (charm : Charm) :
    (contract app).Keeps app.system app.leader (recoverFromOfflineLeader charm)
      (fun w => w.last app.leader = some .isLeader) := by
  rw [recoverFromOfflineLeader,collectPeerStates_eq,bind_assoc]
  refine Contract.keeps_bind outline_read fun peers => ?_
  rw [pure_bind]
  refine Contract.outline_ite _ (fun _ => ?_) (fun _ => Contract.outline_ite _ (fun outage => ?_) (fun _ => ?_))
  · exact Contract.outline_pre (keeps_avoids (rejoin_restores charm)) (fun _ _ _ => trivial)
  · have members := avoids_quiet boots_loud (quiet_countClusterMembers [.online])
    refine Contract.outline_pre (M := fun w => app.nobodyOnline w = true) ?_ fun w _ read => read peers rfl outage
    refine Contract.keeps_bind (outline_nobody members) fun n => ?_
    refine Contract.outline_ite _ (fun _ => fun _ _ _ => trivial) fun _ => ?_
    refine Contract.outline_tryElse outline_quorum (fun e _ => ?_) (fun _ => ?_) (fun _ _ _ _ _ => trivial)
    · exact Contract.outline_pre (keeps_recreate _) (fun _ _ nobody => nobody ⟨e,rfl⟩)
    · exact Contract.outline_pre (keeps_avoids (avoids_quiet restores_loud quiet_setBuiltStatuses))
        (fun _ _ _ => trivial)
  · exact fun _ _ _ => trivial

theorem follower_restores (charm : Charm) : Avoids (fun c => restores c = true) (recoverFromOfflineFollower charm) :=
  avoids_bind (avoids_quiet restores_loud quiet_collectPeerStates) fun _ =>
    avoids_ite _ (fun _ => rejoin_restores charm) (fun _ => trivial)

theorem onlineFollower_restores : Avoids (fun c => restores c = true) recoverFromOnlineFollower := by
  refine avoids_bind (avoids_quiet restores_loud quiet_fetchState) fun _ => avoids_ite _ (fun _ => trivial) fun _ => ?_
  refine avoids_bind (avoids_tryExcept (avoids_ask (by decide)) (fun _ => trivial)) fun _ => ?_
  exact avoids_bind (avoids_quiet restores_loud quiet_buildUnitStatus) fun _ =>
    avoids_quiet restores_loud (quiet_setUnitStatus _)

/-- The ONLINE leader may reboot the cluster, but never recreates it. -/
theorem keeps_onlineLeader :
    (contract app).Keeps app.system app.leader recoverFromOnlineLeader (fun _ => True) := by
  have loud : ∀ c, recreates c = true → Loud c := fun c h => by
    unfold recreates at h
    split at h <;> first | rfl | cases h
  have avoids : Avoids (fun c => recreates c = true) recoverFromOnlineLeader := by
    refine avoids_bind (avoids_quiet loud quiet_fetchState) fun _ => avoids_ite _ (fun _ => trivial) fun _ => ?_
    refine avoids_tryElse (avoids_bind ?_ fun _ => avoids_bind ?_ fun _ => ?_) (fun _ => ?_) (fun _ => ?_)
    · exact avoids_tryExcept (avoids_ask (by decide)) (fun _ => trivial)
    · exact avoids_quiet loud (quiet_countClusterMembers _)
    · exact avoids_ite _ (fun _ => trivial) (fun _ => avoids_ask (by decide))
    · exact avoids_quiet loud (quiet_setUnitStatus _)
    · exact avoids_quiet loud quiet_setBuiltStatuses
  refine Contract.outline_frame ((contract app).stable_const _ True) (fun c other w inv holds => ?_) avoids
  obtain ⟨safe,effects⟩ := takes_any (L := fun _ => True) (by simpa using other) (fun leads => absurd rfl leads)
    w inv holds
  exact ⟨safe,fun reply happened allowed =>
    ⟨(effects reply happened allowed).1,(effects reply happened allowed).2.1,trivial⟩⟩

/-- The answer that decides between the recoveries of the leader and of the others. -/
theorem outline_isLeader (u : UnitId) :
    (contract app).Outline app.system u isLeader (fun _ => True)
      (fun r w => (∀ b, r = .ok b → b = (u == app.leader)) ∧ w.last u = some .isLeader) := by
  refine Contract.outline_perform ((contract app).stable_const u True) fun w inv holds => ?_
  obtain ⟨safe,effects⟩ := @takes_any app u .isLeader (fun _ => True) rfl (fun _ => rfl) w inv holds
  refine ⟨safe,fun reply happened allowed => ?_⟩
  obtain ⟨inv',guarantee,last⟩ := effects reply happened allowed
  refine ⟨inv',guarantee,fun b answered => ?_,last⟩
  cases reply with
  | error e => cases answered
  | ok a => cases answered; rfl

theorem keeps_selfHealing (charm : Charm) (u : UnitId) :
    (contract app).Keeps app.system u (onSelfHealing charm) (fun _ => True) := by
  have endpoints : (contract app).Keeps app.system u (updateDatabaseEndpoints charm) (fun _ => True) :=
    keeps_avoids (avoids_quiet restores_loud (quiet_updateDatabaseEndpoints charm))
  have starting : Avoids (fun c => restores c = true) (ServerService.start charm.substrate) := by
    refine avoids_start (fun c asks => ?_) _
    unfold startsServer at asks
    split at asks <;> first | contradiction | simp [restores]
  refine Contract.keeps_bind (keeps_avoids (avoids_quiet restores_loud (quiet_running _))) fun _ => ?_
  refine Contract.outline_ite _ (fun _ => ?_) (fun _ => keeps_avoids starting)
  refine Contract.keeps_bind (keeps_avoids (avoids_quiet restores_loud (quiet_initialized _))) fun _ => ?_
  refine Contract.outline_ite _ (fun _ => ?_) (fun _ _ _ _ => trivial)
  refine Contract.keeps_bind (keeps_avoids (avoids_quiet restores_loud (quiet_ask rfl))) fun _ => ?_
  refine Contract.outline_ite _ (fun _ _ _ _ => trivial) fun _ => ?_
  refine Contract.keeps_bind (keeps_avoids (avoids_quiet restores_loud (quiet_ask rfl))) fun state => ?_
  refine Contract.keeps_bind (outline_isLeader u) fun b => ?_
  refine Contract.outline_pre (Contract.outline_assuming fun leads : b = (u == app.leader) => ?_)
    (fun w _ known => ⟨known.1 b rfl,known.2⟩)
  have weaken {p : Hook Unit} (keeps : (contract app).Keeps app.system u p (fun _ => True)) :
      (contract app).Keeps app.system u p (fun w => w.last u = some .isLeader) :=
    Contract.outline_pre keeps (fun _ _ _ => trivial)
  have same (h : b = true) : u = app.leader := by simpa [h] using leads
  split
  · have := same rfl
    subst this
    exact Contract.keeps_bind (weaken keeps_onlineLeader) (fun _ => endpoints)
  · exact Contract.keeps_bind (weaken (keeps_avoids onlineFollower_restores)) (fun _ => endpoints)
  · have := same rfl
    subst this
    exact Contract.keeps_bind (keeps_offlineLeader charm) (fun _ => endpoints)
  · exact Contract.keeps_bind (weaken (keeps_avoids (follower_restores charm))) (fun _ => endpoints)
  · exact weaken endpoints

theorem meets : (contract app).Meets app.system where
  begins w u job w' _ begins := by
    cases begins
    exact ⟨trivial,fun _ nobody => nobody,fun _ _ => rfl⟩
  finishes w u job r _ := by
    cases r with
    | ok a => exact ⟨trivial,fun _ nobody => nobody,fun _ _ => rfl⟩
    | error e => exact ⟨trivial,fun _ nobody => nobody,fun _ _ => rfl⟩
  acts w a _ _ := ⟨trivial,fun nobody => nobody_act nobody a,last_act w a⟩
  jobs u job := by
    cases job with
    | updateStatus => exact keeps_avoids (avoids_onUpdateStatus restores_loud (by simp [restores]) _)
    | selfHealing => exact keeps_selfHealing _ u
    | relationChanged =>
      exact keeps_avoids (avoids_onRelationChanged restores_loud (by simp [restores]) (by simp [restores])
        (by simp [restores]) (by simp [restores]) (by simp [restores]) (by simp [restores]) _)

end

/-- From every state of the instances and the databags, in every order of hooks and
    failures whose steps meet the condition, no unit is ever about to drop or create
    the cluster while another one is ONLINE. -/
theorem forkFree_of_upToDate (app : Application) (w : World) (labels : List (Label UnitId Job Call Reply Exn Act))
    (allowed : app.system.allAllowed (upToDate app) (idle w) labels = true) :
    ForkFree app (app.system.run (idle w) labels) := by
  have holds := Contract.holds_run (@meets app) (Contract.holds_idle (w := w) trivial) labels allowed
  exact fun u c next => Contract.safe_of_holds holds next

/-- Two units; the leader is the first one. -/
def pair : Application := ⟨[0,1],0,fun u => ⟨.vm,"mysql",u,"cluster",if u = 0 then "10.0.0.1" else "10.0.0.2"⟩⟩

def ownData : UnitId → Databag
  | 0 => [("member-state","ONLINE"),("database-peers-address","10.0.0.1")]
  | _ => [("member-state","ONLINE"),("database-peers-address","10.0.0.2")]

def bothOnline : World := ⟨fun _ => .online,ownData,ownData,fun _ => none⟩

/-- Every query succeeds. The first unit is the primary and lists the second one. -/
def replies : (c : Call) → Except Exn (Reply c)
  | .snapPresent | .snapServiceActive => .ok true
  | .clusterLabels _ => .ok ["cluster"]
  | .appData _ => .ok (some "cluster")
  | .clusterSetStatus _ => .ok ⟨"cluster",[("cluster",⟨"OK",some "10.0.0.1:3306"⟩)]⟩
  | .clusterStatus _ => .ok ⟨.primary,.ok,some "10.0.0.1:3306",[("mysql-1",⟨.offline,"R/O",none,none⟩)]⟩
  | .executeSql _ (.lockAcquire _ _) => .ok ["mysql-1"]
  | _ => .ok default

/-- The instance of the second unit fails and its state is published. -/
def secondFails : List (Label UnitId Job Call Reply Exn Act) :=
  .act (.leaves 1 .offline) :: Label.whole 1 .updateStatus replies 30

/-- Both instances fail, and the reboot refuses: the leader is about to recreate the
    cluster. -/
def outageRun : List (Label UnitId Job Call Reply Exn Act) :=
  secondFails ++ .act (.leaves 0 .offline) :: .start 0 .selfHealing ::
    List.replicate 14 (.call 0 (fun c => match c with
      | .rebootCluster _ => .error ⟨.executionError,"The instance has missing transactions"⟩
      | c => replies c) false)

theorem forkFree_outage :
    (pair.system.run (idle bothOnline) outageRun).next 0 = some (.dropMetadata .own) ∧
      ForkFree pair (pair.system.run (idle bothOnline) outageRun) :=
  ⟨by decide +kernel,forkFree_of_upToDate pair bothOnline outageRun (by decide +kernel)⟩

/-- The second unit rejoins and catches up, which publishes nothing; then the
    instance of the leader fails. -/
def staleRun : List (Label UnitId Job Call Reply Exn Act) :=
  secondFails ++ Label.whole 1 .selfHealing replies 40 ++
    [.act (.catchesUp 1),.act (.leaves 0 .offline),.start 0 .selfHealing] ++
    List.replicate 14 (.call 0 replies false)

/-- From a healthy cluster, the leader is about to drop the metadata and create a
    second cluster while the other unit is ONLINE. -/
theorem staleRun_forks :
    ¬ ∀ (app : Application) (w : World) (labels : List (Label UnitId Job Call Reply Exn Act)),
      ForkFree app (app.system.run (idle w) labels) := by
  intro always
  have reached : (pair.system.run (idle bothOnline) staleRun).next 0 = some (.dropMetadata .own) := by decide +kernel
  have online : pair.othersOnline (pair.system.run (idle bothOnline) staleRun).world 0 = true := by decide +kernel
  have none := always pair bothOnline staleRun 0 _ reached rfl
  rw [online] at none
  cases none

end MysqlOperators.Forks
