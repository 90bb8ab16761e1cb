import MysqlOperators.Interleaving
import MysqlOperators.RollingOps
import MysqlOperators.Quiet

/-!
Rolling restarts of the units of an application. `RollingOpsManager` grants its lock
to a unit with a waiting restart and takes it back when the callback returns; a
callback that raises keeps it until it is called again. Meanwhile the servers fail
and recover as they like, the group elects primaries, and other units ask for
restarts of their own.
-/
namespace MysqlOperators.Restarts
open MysqlOperators.Program MysqlOperators.Program.Prog MysqlOperators.External MysqlOperators.Clients
open MysqlOperators.Workload MysqlOperators.Helpers MysqlOperators.RollingOps MysqlOperators.Quiet
open MysqlOperators.Interleaving

/-! ### The application -/

structure Application where
  units : List UnitId
  charm : UnitId → Charm
  own : ∀ u, (charm u).unit = u

/-- The states of the instances and the primary, the restarts that are waiting, the
    holder of the lock, the instances that have been stopped for a restart and not
    been ONLINE since, and whether the holder is deciding on its restart: it has
    asked for its role and not stopped its server yet. -/
structure World where
  state : UnitId → InstanceState
  primary : Option UnitId
  pending : UnitId → Bool
  lock : Option UnitId
  down : UnitId → Bool
  deciding : Bool

/-- A restart, with the number of polls that its hook has time for. -/
abbrev Job := Nat

inductive Act where
  | request (u : UnitId)
  | becomes (u : UnitId) (state : InstanceState)
  | elect (u : UnitId)
deriving DecidableEq, Repr

namespace World

/-- Only an ONLINE instance is the primary, and one that is ONLINE is not down. -/
def become (w : World) (u : UnitId) (state : InstanceState) : World :=
  { w with
    state := fun v => if v = u then state else w.state v
    primary := if w.primary = some u ∧ state ≠ .online then none else w.primary
    down := fun v => if v = u ∧ state = .online then false else w.down v }

/-- The instance of a unit is stopped for its restart. -/
def stop (w : World) (u : UnitId) : World :=
  let stopped := w.become u .offline
  { stopped with down := fun v => if v = u then true else stopped.down v, deciding := false }

/-- The manager grants its lock, or calls the holder of it again. -/
def grant (w : World) (u : UnitId) (_ : Job) : Option World :=
  if w.lock = some u ∨ w.lock = none ∧ w.pending u = true then some { w with lock := some u, deciding := false } else none

def finish (w : World) (u : UnitId) (_ : Job) : Except Exn OperationResult → World
  | .ok .release =>
    { w with lock := none, pending := fun v => if v = u then false else w.pending v, deciding := false }
  | .ok .retryRelease => { w with lock := none, deciding := false }
  | .error _ => { w with deciding := false }

end World

/-- The calls that stop the server. -/
def stops : Call → Bool
  | .snapStop _ | .containerStop _ => true
  | _ => false

namespace Application
variable (app : Application)

def others (u : UnitId) : List UnitId := app.units.filter (· != u)

def othersWait (w : World) (u : UnitId) : Bool := (app.others u).any w.pending

def answer (w : World) (u : UnitId) : (c : Call) → Except Exn (Reply c) → Except Exn (Reply c)
  | .peersRelation, .ok _ => .ok (some ⟨(app.others u).map (fun v => (v,[])),[],0⟩)
  | .instanceState .own, .ok _ => .ok (some (w.state u))
  | .instanceRole .own, .ok _ => .ok (some (if w.primary = some u then .primary else .secondary))
  | .isWaiting callback v, .ok _ => .ok (callback == RollingHelper.instanceCallback && w.pending v)
  | _, r => r

def change (w : World) (u : UnitId) : Call → World
  | .snapStop _ | .containerStop _ => w.stop u
  | .rebootCluster .own => w.become u .online
  | .instanceRole .own => { w with deciding := true }
  | _ => w

def effect (w : World) (u : UnitId) (c : Call) (r : Except Exn (Reply c)) (happened : Bool) : World :=
  match r with
  | .ok _ => change w u c
  | .error _ => if happened then change w u c else w

def act (w : World) : Act → World
  | .request u => { w with pending := fun v => if v = u then true else w.pending v }
  | .becomes u state => w.become u state
  | .elect u => if w.state u = .online then { w with primary := some u } else w

def system : System UnitId Job Call Reply Exn OperationResult World Act where
  program u polls := RollingHelper.restartInstance (app.charm u) polls
  answer := app.answer
  effect := effect
  begin_ := World.grant
  finish := World.finish
  act := act

end Application

/-- A release comes after the restarted instance has been ONLINE again, at most one
    instance is down because of a restart, and a primary whose server is about to be
    stopped has no other unit waiting. -/
structure Rolling (app : Application) (s : State UnitId Job Call Reply Exn OperationResult World) : Prop where
  recovered : ∀ u, s.returned u = some .release → s.world.down u = false
  single : ∀ u v, s.world.down u = true → s.world.down v = true → u = v
  last : ∀ u c, s.next u = some c → stops c = true → s.world.primary = some u → app.othersWait s.world u = false

/-- The topology that a restarted unit reads lists its instance once it has been
    ONLINE, no restart starts over with the server stopped, and while a unit decides
    on its restart no other unit waits beside the primary that it is or becomes. -/
def attentive (app : Application) : Condition UnitId Call Reply Exn World Act where
  call w u c r _ :=
    match c,r with
    | .clusterStatus .own, .ok (report : ClusterReport) =>
      !(report.topology.map Prod.fst).contains (getUnitLabel (app.charm u) u) || !w.down u
    | .snapPresent, .ok present => present || !w.down u
    | .snapServiceActive, .ok active => active || !w.down u
    | .canConnect, .ok ready => ready || !w.down u
    | .serviceRunning _, .ok (running : Option Bool) => running == some true || !w.down u
    | _, _ => true
  act w a :=
    match a,w.lock,w.deciding with
    | .request v, some u, true => v == u || w.primary != some u
    | .elect v, some u, true => v != u || w.primary == some u || !app.othersWait w u
    | _, _, _ => true

/-! ### The contract -/

/-- An instance is down only while its unit holds the lock, and then it is not the
    primary. -/
structure Inv (w : World) : Prop where
  held : ∀ u, w.down u = true → w.lock = some u
  online : ∀ u, w.primary = some u → w.state u = .online
  up : ∀ u, w.state u = .online → w.down u = false

/-- Restarts are waiting beside the primary `u` only if they were before. -/
def Narrows (app : Application) (u : UnitId) (w w' : World) : Prop :=
  w'.primary = some u →
    (w.primary = some u ∧ ∀ v, v ≠ u → w'.pending v = true → w.pending v = true) ∨ app.othersWait w' u = false

def contract (app : Application) : Contract UnitId Call Reply Exn World Act where
  condition := attentive app
  inv := Inv
  guarantee u w _ := w.lock = none ∨ w.lock = some u
  environment w w' := w'.lock = w.lock ∧ w'.deciding = w.deciding ∧ (∀ u, w'.down u = true → w.down u = true) ∧
    (w.deciding = true → ∀ u, w.lock = some u → Narrows app u w w')
  safe w u c := stops c = true → w.primary = some u → app.othersWait w u = false

/-- A unit begins with the lock, and gives it back only when its instance is not down. -/
def duties : Contract.Duties UnitId Job Exn OperationResult World where
  starts u _ w := w.lock = some u
  ends u _ r w := w.lock = some u ∧ ∀ a, r = .ok a → w.down u = false

section
variable {app : Application} {u : UnitId} {α : Type}

/-- Knowledge of the holder that the environment leaves it. -/
theorem stable_mine {P : World → Prop} (kept : ∀ w w', w.lock = some u → (contract app).environment w w' → P w → P w') :
    (contract app).Stable u (fun w => w.lock = some u ∧ P w) := by
  rintro w w' _ _ ⟨mine,holds⟩ (environment | ⟨v,other,guarantee⟩)
  · exact ⟨environment.1.trans mine,kept w w' mine environment holds⟩
  · rcases guarantee with free | theirs
    · rw [mine] at free
      cases free
    · rw [mine] at theirs
      exact absurd (Option.some.inj theirs).symm other

theorem up_kept {w w' : World} (environment : (contract app).environment w w') (up : w.down u = false) :
    w'.down u = false := by
  cases fallen : w'.down u with
  | false => rfl
  | true =>
    have := environment.2.2.1 u fallen
    rw [up] at this
    cases this

theorem stable_up : (contract app).Stable u (fun w => w.lock = some u ∧ w.down u = false) :=
  stable_mine fun _ _ _ environment up => up_kept environment up

/-- The units of a list do not wait while `u` is the primary. -/
def Checked (u : UnitId) (units : List UnitId) (w : World) : Prop :=
  w.primary = some u → ∀ v ∈ units, w.pending v = false

theorem checked_others {w : World} : Checked u (app.others u) w ↔ (w.primary = some u → app.othersWait w u = false) := by
  unfold Checked Application.othersWait
  rw [List.any_eq_false]
  simp

theorem stable_checked {units : List UnitId} (sub : ∀ v ∈ units, v ∈ app.others u) :
    (contract app).Stable u (fun w => w.lock = some u ∧ w.deciding = true ∧ Checked u units w) := by
  refine stable_mine fun w w' mine environment holds => ⟨environment.2.1.trans holds.1,fun leads v member => ?_⟩
  rcases environment.2.2.2 holds.1 u mine leads with ⟨led,narrows⟩ | none
  · have other : v ≠ u := by simpa [Application.others] using (List.mem_filter.mp (sub v member)).2
    cases waiting : w'.pending v with
    | false => rfl
    | true =>
      have := narrows v other waiting
      rw [holds.2 led v member] at this
      cases this
  · rw [Application.othersWait,List.any_eq_false] at none
    simpa using none v (sub v member)

/-! ### Steps -/

theorem inv_become {w : World} (inv : Inv w) (v : UnitId) (state : InstanceState) : Inv (w.become v state) where
  held x down := by
    refine inv.held x ?_
    simp only [World.become] at down
    split at down
    · cases down
    · exact down
  online x leads := by
    simp only [World.become] at leads ⊢
    split at leads
    · cases leads
    · rename_i stays
      by_cases same : x = v
      · subst same
        by_contra other
        rw [if_pos rfl] at other
        exact stays ⟨leads,other⟩
      · rw [if_neg same]
        exact inv.online x leads
  up x online := by
    simp only [World.become] at online ⊢
    by_cases same : x = v
    · subst same
      rw [if_pos rfl] at online
      rw [if_pos ⟨rfl,online⟩]
    · rw [if_neg same] at online
      rw [if_neg (fun both => same both.1)]
      exact inv.up x online

theorem inv_stop {w : World} (inv : Inv w) (mine : w.lock = some u) : Inv (w.stop u) where
  held x down := by
    by_cases same : x = u
    · subst same
      exact mine
    · simp only [World.stop,if_neg same] at down
      exact (inv_become inv u .offline).held x down
  online x leads := (inv_become inv u .offline).online x leads
  up x online := by
    by_cases same : x = u
    · subst same
      simp [World.stop,World.become] at online
    · simp only [World.stop,if_neg same]
      exact (inv_become inv u .offline).up x online

theorem down_become {w : World} {v x : UnitId} {state : InstanceState} (down : (w.become v state).down x = true) :
    w.down x = true := by
  simp only [World.become] at down
  split at down
  · cases down
  · exact down

/-! ### Calls -/

/-- Calls that change nothing here. -/
def plain : Call → Bool
  | .snapStop _ | .containerStop _ | .rebootCluster .own | .instanceRole .own => false
  | _ => true

theorem effect_plain {c : Call} (calm : plain c = true) (w : World) (r : Except Exn (Reply c)) (happened : Bool) :
    Application.effect w u c r happened = w := by
  have same : Application.change w u c = w := by
    unfold Application.change
    split <;> first | rfl | cases calm
  unfold Application.effect
  split
  · exact same
  · rw [same,ite_self]

theorem takes_plain {c : Call} (calm : plain c = true) {P : World → Prop} {R : Except Exn (Reply c) → World → Prop}
    (learns : ∀ w raw, Inv w → w.lock = some u → P w →
      (attentive app).call w u c (app.answer w u c raw) false = true → R (app.answer w u c raw) w) :
    (contract app).Takes app.system u c (fun w => w.lock = some u ∧ P w) (fun r w => w.lock = some u ∧ R r w) := by
  rintro w inv ⟨mine,holds⟩
  refine ⟨fun stop => ?_,fun raw happened allowed => ?_⟩
  · unfold stops at stop
    split at stop <;> first | cases calm | cases stop
  · have same : app.system.effect w u c (app.system.answer w u c raw) happened = w := effect_plain calm w _ _
    rw [same]
    exact ⟨inv,.inr mine,mine,learns w raw inv mine holds allowed⟩

theorem takes_kept {c : Call} (calm : plain c = true) (P : World → Prop) :
    (contract app).Takes app.system u c (fun w => w.lock = some u ∧ P w) (fun _ w => w.lock = some u ∧ P w) :=
  takes_plain calm (fun _ _ _ _ holds _ => holds)

/-- A program of plain calls keeps what the holder knows. -/
theorem outline_plain {P : World → Prop} (stable : (contract app).Stable u (fun w => w.lock = some u ∧ P w))
    {p : Hook α} (avoids : Avoids (fun c => plain c = false) p) :
    (contract app).Outline app.system u p (fun w => w.lock = some u ∧ P w) (fun _ w => w.lock = some u ∧ P w) :=
  Contract.outline_frame stable (fun _ calm => takes_kept (by simpa using calm) P) avoids

theorem stable_holder : (contract app).Stable u (fun w => w.lock = some u ∧ True) :=
  stable_mine (fun _ _ _ _ _ => trivial)

/-- The server is found stopped only if the instance is not down. -/
theorem outline_running (s : Substrate) :
    (contract app).Outline app.system u (ServerService.running s) (fun w => w.lock = some u ∧ True)
      (fun r w => w.lock = some u ∧ (r = .ok false → w.down u = false)) := by
  cases s with
  | vm =>
    refine Contract.outline_bind (Contract.outline_perform stable_holder
      (takes_plain (R := fun r w => r = .ok false → w.down u = false) rfl ?_)) (fun present => ?_) ?_
    · intro w raw _ _ _ allowed absent
      rw [absent] at allowed
      simpa [attentive] using allowed
    · refine Contract.outline_ite _ (fun _ => ?_) (fun absent => ?_)
      · refine Contract.outline_pre (Contract.outline_perform stable_holder (takes_plain rfl ?_))
          (fun w _ holds => ⟨holds.1,trivial⟩)
        intro w raw _ _ _ allowed inactive
        rw [inactive] at allowed
        simpa [attentive] using allowed
      · exact fun w _ holds => ⟨holds.1,fun _ => holds.2 (by simpa using absent)⟩
    · exact fun e w _ holds => ⟨holds.1,nofun⟩
  | k8s =>
    refine Contract.outline_bind (Contract.outline_perform stable_holder
      (takes_plain (R := fun r w => r = .ok false → w.down u = false) rfl ?_)) (fun ready => ?_) ?_
    · intro w raw _ _ _ allowed absent
      rw [absent] at allowed
      simpa [attentive] using allowed
    · refine Contract.outline_ite _ (fun _ => ?_) (fun absent => ?_)
      · refine Contract.outline_bind (Contract.outline_pre (Contract.outline_perform stable_holder
          (takes_plain (R := fun r w => (r = .ok none ∨ r = .ok (some false)) → w.down u = false) rfl ?_))
          (fun w _ holds => ⟨holds.1,trivial⟩)) (fun b => ?_) ?_
        · rintro w raw _ _ _ allowed (missing | inactive)
          · rw [missing] at allowed
            simpa [attentive] using allowed
          · rw [inactive] at allowed
            simpa [attentive] using allowed
        · split
          · exact fun w _ holds => ⟨holds.1,fun _ => holds.2 (.inl rfl)⟩
          · exact fun w _ holds => ⟨holds.1,fun same => holds.2 (by cases same; exact .inr rfl)⟩
        · exact fun e w _ holds => ⟨holds.1,nofun⟩
      · exact fun w _ holds => ⟨holds.1,fun _ => holds.2 (by simpa using absent)⟩
    · exact fun e w _ holds => ⟨holds.1,nofun⟩

/-! ### The decision -/

theorem stable_passed {units : List UnitId} (sub : ∀ v ∈ units, v ∈ app.others u) : (contract app).Stable u
    (fun w => w.lock = some u ∧ w.down u = false ∧ w.deciding = true ∧ Checked u units w) := by
  intro w w' before after holds moves
  have up := stable_up w w' before after ⟨holds.1,holds.2.1⟩ moves
  exact ⟨up.1,up.2,
(stable_checked sub w w' before after ⟨holds.1,holds.2.2⟩ moves).2⟩

theorem takes_role : (contract app).Takes app.system u (.instanceRole .own) (fun w => w.lock = some u ∧ True)
    (fun r w => w.lock = some u ∧ (r = .ok (some .primary) → w.deciding = true ∧ w.down u = false) ∧
      (∀ role, r = .ok role → role ≠ some .primary → w.deciding = true ∧ Checked u (app.others u) w)) := by
  rintro w inv ⟨mine,-⟩
  have inv' : Inv { w with deciding := true } := ⟨inv.held,inv.online,inv.up⟩
  refine ⟨nofun,fun raw happened _ => ?_⟩
  cases raw with
  | error e =>
    cases happened with
    | true => exact ⟨inv',.inr mine,mine,nofun,nofun⟩
    | false => exact ⟨inv,.inr mine,mine,nofun,nofun⟩
  | ok role =>
    refine ⟨inv',.inr mine,mine,fun leads => ⟨rfl,?_⟩,fun role answered follows => ⟨rfl,fun leads => ?_⟩⟩
    · have led : w.primary = some u := by
        by_contra other
        simp [Application.system,Application.answer,other] at leads
      exact inv.up u (inv.online u led)
    · have led : w.primary = some u := leads
      simp only [Application.system,Application.answer,led,if_true,Except.ok.injEq] at answered
      exact absurd answered.symm follows

/-- The role is asked for: a primary is not down, and another instance need not look
    for waiting units. -/
theorem outline_isClusterPrimary :
    (contract app).Outline app.system u RollingManager.isClusterPrimary (fun w => w.lock = some u ∧ True)
      (fun r w => w.lock = some u ∧ (r = .ok true → w.deciding = true ∧ w.down u = false) ∧
        (r = .ok false → w.deciding = true ∧ Checked u (app.others u) w)) := by
  refine Contract.outline_bind (Contract.outline_perform stable_holder takes_role) (fun role => ?_) ?_
  · refine fun w _ holds => ⟨holds.1,fun leads => holds.2.1 ?_,fun follows => holds.2.2 role rfl ?_⟩
    · rw [beq_iff_eq.mp (Except.ok.inj leads)]
    · exact beq_eq_false_iff_ne.mp (Except.ok.inj follows)
  · exact fun e w _ holds => ⟨holds.1,nofun,nofun⟩

theorem outline_checkInstanceWaitingOps (units passed : List UnitId) (sub : ∀ v ∈ units ++ passed, v ∈ app.others u) :
    (contract app).Outline app.system u (RollingHelper.checkInstanceWaitingOps units)
      (fun w => w.lock = some u ∧ w.down u = false ∧ w.deciding = true ∧ Checked u passed w)
      (fun r w => w.lock = some u ∧ w.down u = false ∧
        (r = .ok false → w.deciding = true ∧ Checked u (units ++ passed) w)) := by
  induction units generalizing passed with
  | nil => exact fun w _ holds => ⟨holds.1,holds.2.1,fun _ => holds.2.2⟩
  | cons v rest ih =>
    refine Contract.outline_bind (Contract.outline_perform (stable_passed (fun x member => sub x (by simp [member])))
      (takes_plain (R := fun r w => w.down u = false ∧ w.deciding = true ∧ Checked u passed w ∧
        (r = .ok false → w.pending v = false)) rfl ?_)) (fun waiting => ?_) ?_
    · intro w raw _ _ holds _
      refine ⟨holds.1,holds.2.1,holds.2.2,fun free => ?_⟩
      cases raw with
      | error e => cases free
      | ok b => simpa [Application.answer] using free
    · refine Contract.outline_ite _ (fun _ => ?_) (fun free => ?_)
      · exact fun w _ holds => ⟨holds.1,holds.2.1,nofun⟩
      · have waits : waiting = false := by simpa using free
        subst waits
        refine Contract.outline_pre (Contract.outline_post (ih (v :: passed) fun x member => ?_) ?_) ?_
        · exact sub x (by simp only [List.mem_append,List.mem_cons] at member ⊢; grind)
        · rintro r w _ ⟨mine,up,ended⟩
          refine ⟨mine,up,fun done => ?_⟩
          obtain ⟨deciding,checked⟩ := ended done
          refine ⟨deciding,fun leads x member => checked leads x ?_⟩
          simp only [List.mem_append,List.mem_cons] at member ⊢
          grind
        · rintro w _ ⟨mine,up,deciding,checked,free⟩
          refine ⟨mine,up,deciding,fun leads x member => ?_⟩
          rcases List.mem_cons.mp member with rfl | passed
          · exact free rfl
          · exact checked leads x passed
    · exact fun e w _ holds => ⟨holds.1,holds.2.1,nofun⟩

theorem outline_mustWait :
    (contract app).Outline app.system u (RollingHelper.mustWait (app.others u)) (fun w => w.lock = some u ∧ True)
      (fun r w => w.lock = some u ∧ (r = .ok true → w.down u = false) ∧
        (r = .ok false → w.deciding = true ∧ Checked u (app.others u) w)) := by
  refine Contract.outline_bind outline_isClusterPrimary (fun leads => ?_) ?_
  · refine Contract.outline_ite _ (fun primary => ?_) (fun other => ?_)
    · refine Contract.outline_pre (Contract.outline_post (outline_checkInstanceWaitingOps (app.others u) [] ?_) ?_) ?_
      · exact fun v member => by simpa using member
      · exact fun r w _ holds => ⟨holds.1,fun _ => holds.2.1,fun free => by simpa using holds.2.2 free⟩
      · rintro w _ ⟨mine,isPrimary,-⟩
        obtain ⟨deciding,up⟩ := isPrimary (by rw [primary])
        exact ⟨mine,up,deciding,nofun⟩
    · have follows : leads = false := by simpa using other
      exact fun w _ holds => ⟨holds.1,nofun,fun _ => holds.2.2 (by rw [follows])⟩
  · exact fun e w _ holds => ⟨holds.1,nofun,nofun⟩

/-! ### The restart -/

theorem takes_stop {c : Call} (stop : stops c = true) : (contract app).Takes app.system u c
    (fun w => w.lock = some u ∧ w.deciding = true ∧ Checked u (app.others u) w) (fun _ w => w.lock = some u ∧ True) := by
  rintro w inv ⟨mine,-,checked⟩
  refine ⟨fun _ => checked_others.mp checked,fun raw happened _ => ?_⟩
  have changed : Application.change w u c = w.stop u := by
    unfold stops at stop
    split at stop <;> first | rfl | cases stop
  have outcome (r : Except Exn (Reply c)) :
      Application.effect w u c r happened = w.stop u ∨ Application.effect w u c r happened = w := by
    unfold Application.effect
    split
    · exact .inl changed
    · split
      · exact .inl changed
      · exact .inr rfl
  rcases outcome (app.answer w u c raw) with same | same
  · have same : app.system.effect w u c (app.system.answer w u c raw) happened = w.stop u := same
    rw [same]
    exact ⟨inv_stop inv mine,.inr mine,mine,trivial⟩
  · have same : app.system.effect w u c (app.system.answer w u c raw) happened = w := same
    rw [same]
    exact ⟨inv,.inr mine,mine,trivial⟩

theorem outline_stop (s : Substrate) :
    (contract app).Outline app.system u (ServerService.stop s)
      (fun w => w.lock = some u ∧ w.deciding = true ∧ Checked u (app.others u) w) (fun _ w => w.lock = some u ∧ True) := by
  have stable := @stable_checked app u (app.others u) (fun _ member => member)
  have forget {w : World} (holds : w.lock = some u ∧ w.deciding = true ∧ Checked u (app.others u) w) :
      w.lock = some u ∧ True := ⟨holds.1,trivial⟩
  cases s with
  | vm =>
    refine Contract.outline_bind (outline_plain stable (avoids_ask (by decide))) (fun present => ?_)
      (fun _ _ _ => forget)
    refine Contract.outline_ite _ (fun _ => Contract.outline_perform stable (takes_stop rfl)) (fun _ => ?_)
    exact fun _ _ => forget
  | k8s =>
    refine Contract.outline_bind (outline_plain stable (avoids_ask (by decide))) (fun _ => ?_) (fun _ _ _ => forget)
    exact Contract.outline_perform stable (takes_stop rfl)

theorem outline_reboot : (contract app).Outline app.system u RollingManager.recoverCluster
    (fun w => w.lock = some u ∧ True) (fun r w => w.lock = some u ∧ (∀ a, r = .ok a → w.down u = false)) := by
  refine Contract.outline_perform stable_holder fun w inv holds => ⟨nofun,fun raw happened _ => ?_⟩
  have booted : (w.become u .online).down u = false := by simp [World.become]
  have inv' := inv_become inv u .online
  cases raw with
  | error e =>
    cases happened with
    | true => exact ⟨inv',.inr holds.1,holds.1,nofun⟩
    | false => exact ⟨inv,.inr holds.1,holds.1,nofun⟩
  | ok a => exact ⟨inv',.inr holds.1,holds.1,fun _ _ => booted⟩

/-- An attempt succeeds on a topology that lists the instance. -/
theorem outline_checkJoined :
    (contract app).Outline app.system u (RollingManager.checkJoined (getUnitLabel (app.charm u) u))
      (fun w => w.lock = some u ∧ True) (fun r w => w.lock = some u ∧ (∀ a, r = .ok a → w.down u = false)) := by
  have labels : Avoids (fun c => plain c = false) InstanceClient.fetchClusterLabels :=
    avoids_tryExcept (avoids_ask (by decide)) (fun _ => trivial)
  refine Contract.outline_bind (outline_plain stable_holder labels) (fun _ => ?_) (fun _ _ _ holds => ⟨holds.1,nofun⟩)
  refine Contract.outline_bind (M := fun r w => w.lock = some u ∧ ∀ instances, r = .ok instances →
    (instances.map Prod.fst).contains (getUnitLabel (app.charm u) u) = true → w.down u = false) ?_ (fun instances => ?_)
    (fun _ _ _ holds => ⟨holds.1,nofun⟩)
  · refine Contract.outline_tryElse (Contract.outline_perform stable_holder (takes_plain (R := fun r w =>
      ∀ report : ClusterReport, r = .ok report →
        (report.topology.map Prod.fst).contains (getUnitLabel (app.charm u) u) = true → w.down u = false) rfl ?_))
      (fun e _ => ?_) (fun report => ?_) (fun _ _ _ _ holds => ⟨holds.1,nofun⟩)
    · intro w raw _ _ _ allowed report answered listed
      rw [answered] at allowed
      simp only [attentive,listed] at allowed
      simpa using allowed
    · refine fun w _ holds => ⟨holds.1,fun instances same listed => ?_⟩
      cases same
      cases listed
    · refine fun w _ holds => ⟨holds.1,fun instances same listed => holds.2 report rfl ?_⟩
      cases same
      exact listed
  · refine Contract.outline_ite _ (fun listed => ?_) (fun _ => ?_)
    · exact fun w _ holds => ⟨holds.1,fun _ _ => holds.2 instances rfl listed⟩
    · exact fun w _ holds => ⟨holds.1,nofun⟩

/-- The recovery returns only after the instance has been ONLINE. -/
theorem outline_recoverInstance (polls : Nat) :
    (contract app).Outline app.system u (RollingHelper.recoverInstance (app.charm u) polls)
      (fun w => w.lock = some u ∧ True) (fun r w => w.lock = some u ∧ (∀ a, r = .ok a → w.down u = false)) := by
  refine Contract.outline_bind (outline_plain stable_holder (avoids_ask (by decide))) (fun planned => ?_)
    (fun _ _ _ holds => ⟨holds.1,nofun⟩)
  refine Contract.outline_ite _ (fun _ => outline_reboot) (fun _ => ?_)
  refine Contract.outline_bind (outline_plain stable_holder (avoids_waitRecovering (by decide) polls)) (fun _ => ?_)
    (fun _ _ _ holds => ⟨holds.1,nofun⟩)
  rw [app.own u]
  exact Contract.outline_retry outline_checkJoined (fun _ _ _ holds => ⟨holds.1,trivial⟩) _

/-- The peers that a unit sees are the other units. -/
theorem outline_peersRelation : (contract app).Outline app.system u (ask .peersRelation) (fun w => w.lock = some u ∧ True)
    (fun r w => w.lock = some u ∧ ∀ peers, r = .ok peers → peers = some ⟨(app.others u).map (fun v => (v,[])),[],0⟩) := by
  refine Contract.outline_perform stable_holder (takes_plain (c := .peersRelation) (R := fun r _ =>
    ∀ peers, r = .ok peers → peers = some ⟨(app.others u).map (fun v => (v,[])),[],0⟩) rfl ?_)
  intro w raw _ _ _ _ peers answered
  cases raw with
  | error e => cases answered
  | ok _ => exact (Except.ok.inj answered).symm

theorem plain_start (s : Substrate) : Avoids (fun c => plain c = false) (ServerService.start s) := by
  refine avoids_start (fun c asks => ?_) s
  unfold startsServer at asks
  split at asks <;> first | contradiction | simp [plain]

theorem outline_restart (s : Substrate) : (contract app).Outline app.system u (RollingHelper.restart s)
    (fun w => w.lock = some u ∧ w.deciding = true ∧ Checked u (app.others u) w) (fun _ w => w.lock = some u ∧ True) :=
  Contract.outline_bind (outline_stop _) (fun _ => outline_plain stable_holder (plain_start s)) (fun _ _ _ holds => holds)

theorem outline_restartInstance (polls : Nat) :
    (contract app).Outline app.system u (RollingHelper.restartInstance (app.charm u) polls)
      (fun w => w.lock = some u) (duties.ends u polls) := by
  have raised {w : World} {e : Exn} (mine : w.lock = some u) : duties.ends u polls (.error e) w := ⟨mine,nofun⟩
  refine Contract.outline_seq (outline_running _) (fun w _ mine => ⟨mine,trivial⟩) (fun runs => ?_)
    (fun _ _ _ holds => raised holds.1)
  refine Contract.outline_ite _ (fun _ => ?_) (fun stopped => ?_)
  · refine Contract.outline_seq outline_peersRelation (fun w _ holds => ⟨holds.1,trivial⟩) (fun peers => ?_)
      (fun _ _ _ holds => raised holds.1)
    refine Contract.outline_pre (M := fun w => peers = some ⟨(app.others u).map (fun v => (v,[])),[],0⟩ ∧
      w.lock = some u ∧ True) (Contract.outline_assuming fun seen => ?_)
      (fun w _ holds => ⟨holds.2 peers rfl,holds.1,trivial⟩)
    subst seen
    have listed : ((app.others u).map (fun v => (v,([] : Databag)))).map Prod.fst = app.others u := by
      rw [List.map_map]
      exact List.map_id _
    simp only [listed]
    refine Contract.outline_bind outline_mustWait (fun waits => ?_) (fun _ _ _ holds => raised holds.1)
    refine Contract.outline_ite _ (fun wait => ?_) (fun go => ?_)
    · exact fun w _ holds => ⟨holds.1,fun _ _ => holds.2.1 (by rw [wait])⟩
    · have decided : waits = false := by simpa using go
      subst decided
      refine Contract.outline_seq (outline_restart _) (fun w _ holds => ⟨holds.1,holds.2.2 rfl⟩) (fun _ => ?_)
        (fun _ _ _ holds => raised holds.1)
      refine Contract.outline_bind (outline_recoverInstance polls) (fun _ => ?_) (fun _ _ _ holds => raised holds.1)
      exact fun w _ holds => ⟨holds.1,fun _ _ => holds.2 _ rfl⟩
  · exact fun w _ holds => ⟨holds.1,fun _ _ => holds.2 (by rw [show runs = false by simpa using stopped])⟩

/-! ### Runs -/

theorem begins (w : World) (u : UnitId) (job : Job) (w' : World) (inv : Inv w) (granted : w.grant u job = some w') :
    Inv w' ∧ (w.lock = none ∨ w.lock = some u) ∧ w'.lock = some u := by
  unfold World.grant at granted
  split at granted
  · rename_i may
    cases granted
    refine ⟨⟨fun v down => ?_,inv.online,inv.up⟩,?_,rfl⟩
    · have held := inv.held v down
      rcases may with mine | free
      · rw [mine] at held
        exact held
      · rw [free.1] at held
        cases held
    · exact may.symm.imp And.left id
  · cases granted

theorem finishes (w : World) (u : UnitId) (job : Job) (r : Except Exn OperationResult) (inv : Inv w)
    (owed : duties.ends u job r w) : Inv (w.finish u job r) := by
  have nobody {a : OperationResult} (same : r = .ok a) (v : UnitId) : w.down v = false := by
    cases down : w.down v with
    | false => rfl
    | true =>
      have held := inv.held v down
      rw [owed.1] at held
      cases held
      rw [owed.2 a same] at down
      cases down
  cases r with
  | error e => exact ⟨inv.held,inv.online,inv.up⟩
  | ok a =>
    have free (v : UnitId) (down : w.down v = true) : none = some v := by
      rw [nobody rfl v] at down
      cases down
    cases a with
    | release => exact ⟨free,inv.online,inv.up⟩
    | retryRelease => exact ⟨free,inv.online,inv.up⟩

theorem acts (w : World) (a : Act) (inv : Inv w) (allowed : (attentive app).act w a = true) :
    Inv (Application.act w a) ∧ (contract app).environment w (Application.act w a) := by
  cases a with
  | request v =>
    refine ⟨⟨inv.held,inv.online,inv.up⟩,rfl,rfl,fun _ down => down,fun deciding x held leads => .inl ⟨leads,?_⟩⟩
    have same : v = x := by
      have leads : w.primary = some x := leads
      simpa [attentive,deciding,held,leads] using allowed
    subst same
    intro y other waiting
    simpa [Application.act,other] using waiting
  | becomes v state =>
    refine ⟨inv_become inv v state,rfl,rfl,fun _ down => down_become down,fun _ x _ leads => .inl ⟨?_,fun _ _ h => h⟩⟩
    simp only [Application.act,World.become] at leads
    split at leads
    · cases leads
    · exact leads
  | elect v =>
    by_cases online : w.state v = .online
    · simp only [Application.act,if_pos online]
      refine ⟨⟨inv.held,fun x leads => ?_,inv.up⟩,rfl,rfl,fun _ down => down,fun deciding x held leads => ?_⟩
      · cases leads
        exact online
      · cases leads
        by_cases led : w.primary = some v
        · exact .inl ⟨led,fun _ _ h => h⟩
        · refine .inr ?_
          have free : app.othersWait w v = false := by simpa [attentive,deciding,held,led] using allowed
          exact free
    · simp only [Application.act,if_neg online]
      exact ⟨inv,rfl,rfl,fun _ down => down,fun _ x _ leads => .inl ⟨leads,fun _ _ h => h⟩⟩

theorem fulfils : (contract app).Fulfils app.system duties where
  begins := begins
  finishes w _ job r inv owed := ⟨finishes w _ job r inv owed,.inr owed.1⟩
  acts := acts
  jobs _ polls := outline_restartInstance polls
  lasts _ _ _ := stable_mine fun _ _ _ environment owed a same => up_kept environment (owed a same)

end

/-- From every world in which no restart has begun, in every order of requests, grants
    and elections whose steps meet the condition, whatever the servers do. -/
theorem rolling_of_attentive (app : Application) (w : World) (labels : List (Label UnitId Job Call Reply Exn Act))
    (fresh : ∀ u, w.down u = false) (led : ∀ u, w.primary = some u → w.state u = .online)
    (allowed : app.system.allAllowed (attentive app) (idle w) labels = true) :
    Rolling app (app.system.run (idle w) labels) := by
  have none (u : UnitId) (down : w.down u = true) : w.lock = some u := by
    rw [fresh u] at down
    cases down
  have inv : Inv w := ⟨none,led,fun u _ => fresh u⟩
  have bound := Contract.bound_run (@fulfils app) (Contract.bound_idle inv) labels allowed
  refine ⟨fun u released => ?_,fun u v one two => ?_,fun u c next => Contract.safe_of_bound bound next⟩
  · obtain ⟨_,-,up⟩ := Contract.ends_of_bound bound released
    exact up _ rfl
  · have held := bound.1.held u one
    rw [bound.1.held v two] at held
    exact (Option.some.inj held).symm

/-- Two units; the second one is the primary. -/
def pair : Application where
  units := [0,1]
  charm u := ⟨.vm,"mysql",u,"cluster",""⟩
  own _ := rfl

def running : World := ⟨fun _ => .online,some 1,fun _ => false,none,fun _ => false,false⟩

/-- Every call succeeds, and the topology lists the first unit. -/
def replies : (c : Call) → Except Exn (Reply c)
  | .snapPresent | .snapServiceActive => .ok true
  | .clusterStatus _ => .ok ⟨.primary,.ok,some "10.0.0.2:3306",[("mysql-0",⟨.recovering,"R/O",none,none⟩)]⟩
  | _ => .ok default

/-- The first unit restarts its server and is about to wait for its instance, which
    is RECOVERING. -/
def restartRun : List (Label UnitId Job Call Reply Exn Act) :=
  [.act (.request 0),.start 0 5] ++ List.replicate 10 (.call 0 replies false) ++ [.act (.becomes 0 .recovering)]

/-- The instance is waited for until it is ONLINE. -/
def waitingRun : List (Label UnitId Job Call Reply Exn Act) :=
  restartRun ++ .call 0 replies false :: .act (.becomes 0 .online) :: List.replicate 3 (.call 0 replies false)

theorem rolling_waitingRun :
    (pair.system.run (idle running) waitingRun).returned 0 = some .release ∧
      Rolling pair (pair.system.run (idle running) waitingRun) :=
  ⟨by decide +kernel,rolling_of_attentive pair running waitingRun (fun _ => rfl) (fun _ _ => rfl) (by decide +kernel)⟩

/-- The first query for the state fails. -/
def hastyRun : List (Label UnitId Job Call Reply Exn Act) :=
  restartRun ++ .call 0 (fun _ => .error ⟨.executionError,"Lost connection to MySQL server"⟩) false ::
    List.replicate 2 (.call 0 replies false)

/-- A failed query ends the wait, and the topology lists the instance although it is
    RECOVERING: the lock is released with the instance down. -/
theorem hastyRun_releases :
    ¬ ∀ (app : Application) (w : World) (labels : List (Label UnitId Job Call Reply Exn Act)),
      (∀ u, w.down u = false) → (∀ u, w.primary = some u → w.state u = .online) →
        Rolling app (app.system.run (idle w) labels) := by
  intro always
  have released : (pair.system.run (idle running) hastyRun).returned 0 = some .release := by decide +kernel
  have down : (pair.system.run (idle running) hastyRun).world.down 0 = true := by decide +kernel
  have up := (always pair running hastyRun (fun _ => rfl) (fun _ _ => rfl)).recovered 0 released
  rw [down] at up
  cases up

end MysqlOperators.Restarts
