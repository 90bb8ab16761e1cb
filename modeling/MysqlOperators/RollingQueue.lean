import MysqlOperators.Restarts
import MysqlOperators.TlsRestarts

/-!
The queue of the rolling operations, until it is empty. Units ask for a restart of their
instance or of its replication, the manager grants its one lock to an operation that
waits, and the callback gives the operation back to the queue while its unit is the
primary and others wait for the same. Calls fail, servers are down and the primary moves
between any two calls; what is counted is how often a callback is called.
-/
namespace MysqlOperators.RollingQueue
open MysqlOperators.Program MysqlOperators.Program.Prog MysqlOperators.External MysqlOperators.Clients
open MysqlOperators.Workload MysqlOperators.Helpers MysqlOperators.RollingOps MysqlOperators.Interleaving
open MysqlOperators.Restarts (Application)

/-! ### The callbacks -/

/-- The two callbacks of the charm. -/
inductive Kind where
  | replication
  | restart
deriving DecidableEq, Repr

namespace Kind

def callback : Kind → String
  | replication => Tls.clusterCallback
  | restart => RollingHelper.instanceCallback

/-- The callback of a unit, with the polls that the hook has time for. -/
def program (charm : Charm) (polls : Nat) : Kind → Hook OperationResult
  | replication => TlsRestarts.RollingHelper.restartCluster charm
  | restart => RollingHelper.restartInstance charm polls

end Kind

/-! ### The queue -/

/-- An operation of a unit. -/
abbrev Operation := UnitId × Kind

/-- The operations that wait, the primary, the holder of the lock, the unit that gave an
    operation back last and is behind the others, whether the callback has found its
    server or the peer relation missing, and whether the primary has moved since the
    grant. The rest counts what has happened. -/
structure World where
  waiting : List Operation
  primary : Option UnitId
  lock : Option Operation
  behind : Option UnitId
  troubled : Bool
  moved : Bool
  requested : Nat
  released : Nat
  refused : Nat
  disturbed : Nat
  elections : Nat

inductive Act where
  | request (op : Operation)
  | elect (primary : Option UnitId)
deriving DecidableEq, Repr

/-- A callback finds its server down, or no peer relation. -/
def troubles : (c : Call) → Except Exn (Reply c) → Bool
  | .snapPresent, .ok present => !present
  | .snapServiceActive, .ok active => !active
  | .canConnect, .ok ready => !ready
  | .serviceRunning _, .ok (running : Option Bool) => running != some true
  | .peersRelation, .ok (relation : Option PeersRelation) => relation.isNone
  | _, _ => false

/-- A call of a callback: which one, and the polls. -/
abbrev Job := Kind × Nat

section
variable (app : Application)

/-- `is_waiting_callback` of the manager. -/
def isWaiting (w : World) (callback : String) (v : UnitId) : Bool :=
  w.waiting.any fun op => op.1 == v && op.2.callback == callback

def othersWait (w : World) (u : UnitId) : Bool := (app.others u).any fun v => w.waiting.any fun op => op.1 == v

namespace World

/-- The manager calls the holder of the lock again, or grants the free lock to an
    operation that waits; the unit that gave one back last comes after the others. -/
def grant (w : World) (op : Operation) : Option World :=
  if (w.lock = some op ∨ w.lock = none) ∧ op ∈ w.waiting ∧ ¬ (w.behind = some op.1 ∧ othersWait app w op.1 = true) then
    some { w with
      lock := some op
      behind := if w.behind = some op.1 then none else w.behind
      troubled := false
      moved := false }
  else none

def finish (w : World) (op : Operation) : Except Exn OperationResult → World
  | .ok .release =>
    { w with
      waiting := w.waiting.erase op
      lock := none
      behind := none
      moved := false
      released := w.released + 1 }
  | .ok .retryRelease =>
    if w.troubled then { w with lock := none, behind := none, moved := false, disturbed := w.disturbed + 1 }
    else { w with lock := none, behind := some op.1, moved := false, refused := w.refused + 1 }
  | .error _ => { w with behind := none, moved := false, disturbed := w.disturbed + 1 }

def answer (w : World) (u : UnitId) : (c : Call) → Except Exn (Reply c) → Except Exn (Reply c)
  | .peersRelation, .ok (some _) => .ok (some ⟨(app.others u).map (fun v => (v,[])),[],0⟩)
  | .instanceRole .own, .ok _ => .ok (some (if w.primary = some u then .primary else .secondary))
  | .isWaiting callback v, .ok _ => .ok (isWaiting w callback v)
  | _, r => r

def effect (w : World) (c : Call) (r : Except Exn (Reply c)) : World :=
  if troubles c r then { w with troubled := true } else w

def act (w : World) : Act → World
  | .request op =>
    if op ∈ w.waiting then w else { w with waiting := w.waiting ++ [op], requested := w.requested + 1 }
  | .elect primary =>
    if primary = w.primary then w
    else { w with primary := primary, moved := true, elections := w.elections + 1 }

end World

def system : System UnitId Job Call Reply Exn OperationResult World Act where
  program u job := job.1.program (app.charm u) job.2
  answer w u := w.answer app u
  effect w _ c r _ := w.effect c r
  begin_ w u job := w.grant app (u,job.1)
  finish w u job := w.finish (u,job.1)
  act := World.act

end

def empty : World := ⟨[],none,none,none,false,false,0,0,0,0,0⟩

/-! ### The contract -/

section
variable (app : Application)

/-- Each request waits or has been released. Refusals come one at a time: the next one
    needs a release, a disturbed callback or another primary before it, and a callback
    during which the primary moves may be refused as well. -/
structure Inv (w : World) : Prop where
  counted : w.released + w.waiting.length = w.requested
  bounded : w.refused ≤ w.released + w.disturbed + 2 * w.elections ∨
    w.refused ≤ w.released + w.disturbed + 2 * w.elections + 1 ∧
      ∃ v, w.behind = some v ∧ w.primary = some v ∧ othersWait app w v = true
  slack : w.moved = true → w.refused + 1 ≤ w.released + w.disturbed + 2 * w.elections
  ahead : ∀ op, w.lock = some op → w.behind ≠ some op.1
  holder : ∀ op, w.lock = some op → op ∈ w.waiting

structure Env (w w' : World) : Prop where
  lock : w'.lock = w.lock
  waiting : ∀ op ∈ w.waiting, op ∈ w'.waiting
  troubled : w.troubled = true → w'.troubled = true
  moved : w.moved = true → w'.moved = true
  primary : w'.moved = true ∨ w'.primary = w.primary

def contract : Contract UnitId Call Reply Exn World Act where
  condition := System.unrestricted
  inv := Inv app
  guarantee u w _ := w.lock = none ∨ ∃ kind, w.lock = some (u,kind)
  environment := Env
  safe _ _ _ := True

/-- Why an operation goes back to the queue. -/
def Reason (u : UnitId) (w : World) : Prop :=
  w.troubled = true ∨ w.moved = true ∨ w.primary = some u ∧ othersWait app w u = true

structure Answers (op : Operation) (r : Except Exn OperationResult) (w : World) : Prop where
  mine : w.lock = some op
  reason : r = .ok .retryRelease → Reason app op.1 w

def duties : Contract.Duties UnitId Job Exn OperationResult World where
  starts u job w := w.lock = some (u,job.1)
  ends u job r w := Answers app (u,job.1) r w

end

section
variable {app : Application} {kind : Kind} {u : UnitId}

theorem waits_mono {w w' : World} (more : ∀ op ∈ w.waiting, op ∈ w'.waiting) {v : UnitId}
    (waits : othersWait app w v = true) : othersWait app w' v = true := by
  simp only [othersWait,List.any_eq_true] at waits ⊢
  obtain ⟨x,other,op,there,its⟩ := waits
  exact ⟨x,other,op,more op there,its⟩

/-- What only the holder of the lock knows is not taken away by the others. -/
theorem stable_mine {P : World → Prop} (kept : ∀ w w', Env w w' → P w → P w') :
    (contract app).Stable u (fun w => w.lock = some (u,kind) ∧ P w) := by
  rintro w w' - - ⟨mine,holds⟩ (env | ⟨v,other,free | theirs⟩)
  · exact ⟨by rw [env.lock,mine],kept w w' env holds⟩
  · rw [mine] at free
    cases free
  · rw [mine] at theirs
    obtain ⟨_,same⟩ := theirs
    cases same
    exact absurd rfl other

theorem inv_effect {w : World} (inv : Inv app w) (c : Call) (r : Except Exn (Reply c)) : Inv app (w.effect c r) := by
  unfold World.effect
  split
  · exact ⟨inv.counted,inv.bounded,inv.slack,inv.ahead,inv.holder⟩
  · exact inv

theorem effect_lock (w : World) (c : Call) (r : Except Exn (Reply c)) : (w.effect c r).lock = w.lock := by
  unfold World.effect
  split <;> rfl

/-- A call only takes note of trouble. -/
theorem takes_call {c : Call} {P : World → Prop} {R : Except Exn (Reply c) → World → Prop}
    (noted : ∀ w raw, P w → R (w.answer app u c raw) (w.effect c (w.answer app u c raw))) :
    (contract app).Takes (system app) u c (fun w => w.lock = some (u,kind) ∧ P w)
      (fun r w => w.lock = some (u,kind) ∧ R r w) := by
  rintro w inv ⟨mine,holds⟩
  refine ⟨trivial,fun raw happened _ => ⟨inv_effect inv c _,.inr ⟨kind,mine⟩,?_,noted w raw holds⟩⟩
  exact (effect_lock w c _).trans mine

theorem stable_holder : (contract app).Stable u (fun w => w.lock = some (u,kind) ∧ True) :=
  stable_mine fun _ _ _ _ => trivial

/-- Any program keeps the lock. -/
theorem outline_any {α : Type} (p : Hook α) : (contract app).Outline (system app) u p
    (fun w => w.lock = some (u,kind) ∧ True) (fun _ w => w.lock = some (u,kind) ∧ True) := by
  induction p with
  | ret a => exact fun _ _ holds => holds
  | raise e => exact fun _ _ holds => holds
  | call c next ih =>
    exact ⟨_,_,fun _ _ holds => holds,stable_holder,takes_call fun _ _ _ => trivial,fun r => ih r⟩

theorem outline_perform {c : Call} {P : World → Prop} {R : Except Exn (Reply c) → World → Prop}
    (kept : ∀ w w', Env w w' → P w → P w')
    (noted : ∀ w raw, P w → R (w.answer app u c raw) (w.effect c (w.answer app u c raw))) :
    (contract app).Outline (system app) u (perform c) (fun w => w.lock = some (u,kind) ∧ P w)
      (fun r w => w.lock = some (u,kind) ∧ R r w) :=
  Contract.outline_perform (stable_mine kept) (takes_call noted)

theorem noticed {c : Call} {r : Except Exn (Reply c)} (trouble : troubles c r = true) (w : World) :
    (w.effect c r).troubled = true := by
  rw [World.effect,if_pos trouble]

/-- A server that is found down is trouble. -/
theorem outline_running (s : Substrate) : (contract app).Outline (system app) u (ServerService.running s)
    (fun w => w.lock = some (u,kind) ∧ True)
    (fun r w => w.lock = some (u,kind) ∧ (r = .ok false → w.troubled = true)) := by
  cases s with
  | vm =>
    refine Contract.outline_bind (outline_perform (R := fun r w => r = .ok false → w.troubled = true)
      (fun _ _ _ _ => trivial) fun w raw _ absent => ?_) (fun present => ?_) (fun _ _ _ holds => ⟨holds.1,nofun⟩)
    · rw [absent]
      exact noticed rfl w
    · refine Contract.outline_ite _ (fun _ => ?_)
        (fun absent w _ holds => ⟨holds.1,fun _ => holds.2 (by simpa using absent)⟩)
      refine Contract.outline_pre (outline_perform (fun _ _ _ _ => trivial) fun w raw _ inactive => ?_)
        (fun w _ holds => ⟨holds.1,trivial⟩)
      rw [inactive]
      exact noticed rfl w
  | k8s =>
    refine Contract.outline_bind (outline_perform (R := fun r w => r = .ok false → w.troubled = true)
      (fun _ _ _ _ => trivial) fun w raw _ absent => ?_) (fun ready => ?_) (fun _ _ _ holds => ⟨holds.1,nofun⟩)
    · rw [absent]
      exact noticed rfl w
    · refine Contract.outline_ite _ (fun _ => ?_)
        (fun absent w _ holds => ⟨holds.1,fun _ => holds.2 (by simpa using absent)⟩)
      refine Contract.outline_bind (Contract.outline_pre (outline_perform
        (R := fun r w => r = .ok none ∨ r = .ok (some false) → w.troubled = true) (fun _ _ _ _ => trivial)
        fun w raw _ inactive => ?_) (fun w _ holds => ⟨holds.1,trivial⟩)) (fun b => ?_)
        (fun _ _ _ holds => ⟨holds.1,nofun⟩)
      · rcases inactive with missing | stopped
        · rw [missing]
          exact noticed rfl w
        · rw [stopped]
          exact noticed rfl w
      · split
        · exact fun w _ holds => ⟨holds.1,fun _ => holds.2 (.inl rfl)⟩
        · exact fun w _ holds => ⟨holds.1,fun same => holds.2 (by cases same; exact .inr rfl)⟩

/-- The primary at the moment of the call, unless it moves. -/
def Leads (u : UnitId) (w : World) : Prop := w.moved = true ∨ w.primary = some u

theorem leads_kept (w w' : World) (env : Env w w') (leads : Leads u w) : Leads u w' := by
  rcases leads with moved | leads
  · exact .inl (env.moved moved)
  · rcases env.primary with moved | same
    · exact .inl moved
    · exact .inr (same.trans leads)

theorem effect_primary (w : World) (c : Call) (r : Except Exn (Reply c)) : (w.effect c r).primary = w.primary := by
  unfold World.effect
  split <;> rfl

theorem effect_waiting (w : World) (c : Call) (r : Except Exn (Reply c)) : (w.effect c r).waiting = w.waiting := by
  unfold World.effect
  split <;> rfl

theorem effect_moved (w : World) (c : Call) (r : Except Exn (Reply c)) : (w.effect c r).moved = w.moved := by
  unfold World.effect
  split <;> rfl

theorem leads_effect {w : World} {c : Call} {r : Except Exn (Reply c)} (leads : Leads u w) :
    Leads u (w.effect c r) := by
  rw [Leads,effect_moved,effect_primary]
  exact leads

theorem reason_of_leads {w : World} (leads : Leads u w) (waits : othersWait app w u = true) : Reason app u w :=
  .inr (leads.imp_right fun primary => ⟨primary,waits⟩)

theorem outline_isClusterPrimary : (contract app).Outline (system app) u RollingManager.isClusterPrimary
    (fun w => w.lock = some (u,kind) ∧ True) (fun r w => w.lock = some (u,kind) ∧ (r = .ok true → Leads u w)) := by
  refine Contract.outline_bind (outline_perform (R := fun r w => r = .ok (some .primary) → Leads u w)
    (fun _ _ _ _ => trivial) fun w raw _ answered => ?_) (fun role w _ holds => ⟨holds.1,fun leads => holds.2 ?_⟩)
    (fun _ _ _ holds => ⟨holds.1,nofun⟩)
  · refine .inr ((effect_primary w _ _).trans ?_)
    cases raw with
    | error e => cases answered
    | ok _ =>
      by_contra other
      simp [World.answer,other] at answered
  · rw [beq_iff_eq.mp (Except.ok.inj leads)]

theorem waits_of_isWaiting {w : World} {callback : String} {v : UnitId} (waits : isWaiting w callback v = true) :
    (w.waiting.any fun op => op.1 == v) = true := by
  obtain ⟨op,there,its⟩ := List.any_eq_true.mp waits
  exact List.any_eq_true.mpr ⟨op,there,(Bool.and_eq_true_iff.mp its).1⟩

/-- `_check_cluster_waiting_ops` and `_check_instance_waiting_ops`. -/
def checkWaitingOps (callback : String) : List UnitId → Hook Bool
  | [] => pure false
  | unit :: rest => do
    if ← ask (.isWaiting callback unit) then pure true else checkWaitingOps callback rest

theorem checkClusterWaitingOps_eq :
    TlsRestarts.RollingHelper.checkClusterWaitingOps = checkWaitingOps Tls.clusterCallback := by
  funext units
  induction units with
  | nil => rfl
  | cons unit rest ih => rw [TlsRestarts.RollingHelper.checkClusterWaitingOps,checkWaitingOps,ih]

theorem checkInstanceWaitingOps_eq :
    RollingHelper.checkInstanceWaitingOps = checkWaitingOps RollingHelper.instanceCallback := by
  funext units
  induction units with
  | nil => rfl
  | cons unit rest ih => rw [RollingHelper.checkInstanceWaitingOps,checkWaitingOps,ih]

theorem outline_checkWaitingOps (callback : String) (units : List UnitId) (sub : ∀ v ∈ units, v ∈ app.others u) :
    (contract app).Outline (system app) u (checkWaitingOps callback units) (fun w => w.lock = some (u,kind) ∧ Leads u w)
      (fun r w => w.lock = some (u,kind) ∧ (r = .ok true → Reason app u w)) := by
  induction units with
  | nil => exact fun w _ holds => ⟨holds.1,nofun⟩
  | cons v rest ih =>
    refine Contract.outline_bind (outline_perform (R := fun r w => Leads u w ∧ (r = .ok true → Reason app u w))
      leads_kept fun w raw leads => ?_) (fun waits => ?_) (fun _ _ _ holds => ⟨holds.1,nofun⟩)
    · refine ⟨leads_effect leads,fun answered => reason_of_leads (leads_effect leads) ?_⟩
      refine waits_mono (w := w) (fun op member => ?_) (List.any_eq_true.mpr ⟨v,sub v List.mem_cons_self,?_⟩)
      · rw [effect_waiting]
        exact member
      · cases raw with
        | error e => cases answered
        | ok _ => exact waits_of_isWaiting (Except.ok.inj answered)
    · refine Contract.outline_ite _ (fun found w _ holds => ⟨holds.1,fun _ => holds.2.2 (by rw [found])⟩) (fun _ => ?_)
      exact Contract.outline_pre (ih fun x member => sub x (List.mem_cons_of_mem v member))
        (fun w _ holds => ⟨holds.1,holds.2.1⟩)

def mustWait (callback : String) (units : List UnitId) : Hook Bool := do
  if ← RollingManager.isClusterPrimary then checkWaitingOps callback units else pure false

theorem outline_mustWait (callback : String) : (contract app).Outline (system app) u
    (mustWait callback (app.others u)) (fun w => w.lock = some (u,kind) ∧ True)
    (fun r w => w.lock = some (u,kind) ∧ (r = .ok true → Reason app u w)) := by
  refine Contract.outline_bind outline_isClusterPrimary (fun leads => ?_) (fun _ _ _ holds => ⟨holds.1,nofun⟩)
  refine Contract.outline_ite _ (fun primary => ?_) (fun _ w _ holds => ⟨holds.1,nofun⟩)
  exact Contract.outline_pre (outline_checkWaitingOps callback (app.others u) fun _ member => member)
    (fun w _ holds => ⟨holds.1,holds.2 (by rw [primary])⟩)

theorem outline_peersRelation : (contract app).Outline (system app) u (ask .peersRelation)
    (fun w => w.lock = some (u,kind) ∧ True) (fun r w => w.lock = some (u,kind) ∧ (r = .ok none → w.troubled = true) ∧
      ∀ peers, r = .ok (some peers) → peers.units.map Prod.fst = app.others u) := by
  refine outline_perform (fun _ _ _ _ => trivial) fun w raw _ => ⟨fun missing => ?_,fun peers found => ?_⟩
  · rw [missing]
    exact noticed rfl w
  · cases raw with
    | error e => cases found
    | ok relation =>
      cases relation with
      | none => cases found
      | some _ =>
        simp only [World.answer,Except.ok.injEq,Option.some.injEq] at found
        rw [← found,List.map_map]
        exact List.map_id _

/-- What both callbacks do before their work. -/
def deciding (charm : Charm) (callback : String) (work : Hook OperationResult) : Hook OperationResult := do
  if ← ServerService.running charm.substrate then
    match ← ask .peersRelation with
    | none => pure .retryRelease
    | some peers =>
      if ← mustWait callback (peers.units.map Prod.fst) then pure .retryRelease
      else work
  else pure .retryRelease

theorem deciding_restartCluster (charm : Charm) :
    deciding charm Tls.clusterCallback ((do
      let host ← getUnitAddress charm charm.unit relationPeers
      TlsRestarts.RollingManager.restartInstanceReplication (getUnitLabel charm charm.unit) host) >>=
        fun _ => pure .release) = TlsRestarts.RollingHelper.restartCluster charm := by
  rw [bind_assoc]
  unfold deciding mustWait
  rw [← checkClusterWaitingOps_eq]
  rfl

theorem deciding_restartInstance (charm : Charm) (polls : Nat) :
    deciding charm RollingHelper.instanceCallback ((do
      RollingHelper.restart charm.substrate
      RollingHelper.recoverInstance charm polls) >>= fun _ => pure .release) =
        RollingHelper.restartInstance charm polls := by
  rw [bind_assoc]
  unfold deciding mustWait
  rw [← checkInstanceWaitingOps_eq]
  rfl

theorem outline_deciding (charm : Charm) (callback : String) {work : Hook OperationResult}
    (releases : (contract app).Outline (system app) u work (fun w => w.lock = some (u,kind) ∧ True)
      (Answers app (u,kind))) :
    (contract app).Outline (system app) u (deciding charm callback work) (fun w => w.lock = some (u,kind) ∧ True)
      (Answers app (u,kind)) := by
  refine Contract.outline_bind (outline_running charm.substrate) (fun running => ?_)
    (fun _ _ _ holds => ⟨holds.1,nofun⟩)
  refine Contract.outline_ite _ (fun _ => ?_)
    (fun down w _ holds => ⟨holds.1,fun _ => .inl (holds.2 (by simpa using down))⟩)
  refine Contract.outline_seq outline_peersRelation (fun w _ holds => ⟨holds.1,trivial⟩) (fun relation => ?_)
    (fun _ _ _ holds => ⟨holds.1,nofun⟩)
  cases relation with
  | none => exact fun w _ holds => ⟨holds.1,fun _ => .inl (holds.2.1 rfl)⟩
  | some peers =>
    refine Contract.outline_pre (Contract.outline_assuming (P := peers.units.map Prod.fst = app.others u)
      (L := fun w => w.lock = some (u,kind) ∧ True) fun same => ?_)
      (fun w _ holds => ⟨holds.2.2 peers rfl,holds.1,trivial⟩)
    dsimp only
    rw [same]
    refine Contract.outline_bind (outline_mustWait callback) (fun waits => ?_) (fun _ _ _ holds => ⟨holds.1,nofun⟩)
    refine Contract.outline_ite _ (fun must w _ holds => ⟨holds.1,fun _ => holds.2 (by rw [must])⟩) (fun _ => ?_)
    exact Contract.outline_pre releases (fun w _ holds => ⟨holds.1,trivial⟩)

theorem outline_program (charm : Charm) (polls : Nat) : (contract app).Outline (system app) u
    (kind.program charm polls) (fun w => w.lock = some (u,kind)) (Answers app (u,kind)) := by
  have releases (work : Hook Unit) : (contract app).Outline (system app) u
      (work >>= fun _ => pure .release) (fun w => w.lock = some (u,kind) ∧ True) (Answers app (u,kind)) :=
    Contract.outline_bind (outline_any work) (fun _ _ _ holds => ⟨holds.1,nofun⟩) (fun _ _ _ holds => ⟨holds.1,nofun⟩)
  refine Contract.outline_pre (M := fun w => w.lock = some (u,kind) ∧ True) ?_ (fun w _ mine => ⟨mine,trivial⟩)
  cases kind with
  | replication =>
    rw [Kind.program,← deciding_restartCluster]
    exact outline_deciding charm Tls.clusterCallback (releases _)
  | restart =>
    rw [Kind.program,← deciding_restartInstance]
    exact outline_deciding charm RollingHelper.instanceCallback (releases _)

theorem reason_kept (w w' : World) (env : Env w w') (reason : Reason app u w) : Reason app u w' := by
  rcases reason with troubled | moved | ⟨primary,waits⟩
  · exact .inl (env.troubled troubled)
  · exact .inr (.inl (env.moved moved))
  · exact reason_of_leads (leads_kept w w' env (.inr primary)) (waits_mono env.waiting waits)

theorem answers_lasts (r : Except Exn OperationResult) : (contract app).Stable u (Answers app (u,kind) r) := by
  intro w w' inv inv' answers steps
  have ⟨mine,reason⟩ := stable_mine (P := fun w => r = .ok .retryRelease → Reason app u w)
    (fun w w' env reason again => reason_kept w w' env (reason again)) w w' inv inv' ⟨answers.mine,answers.reason⟩ steps
  exact ⟨mine,reason⟩

theorem begins {w w' : World} {op : Operation} (inv : Inv app w) (granted : w.grant app op = some w') :
    Inv app w' ∧ (w.lock = none ∨ w.lock = some op) ∧ w'.lock = some op := by
  rw [World.grant] at granted
  split at granted
  case isFalse => cases granted
  rename_i guard
  obtain ⟨lock,waits,first⟩ := guard
  cases granted
  refine ⟨⟨inv.counted,?_,nofun,fun v mine => ?_,fun v mine => ?_⟩,lock.symm,rfl⟩
  · refine inv.bounded.imp_right fun ⟨most,v,behind,primary,others⟩ => ⟨most,v,?_,primary,others⟩
    have other : v ≠ op.1 := fun same => first ⟨same ▸ behind,same ▸ others⟩
    simpa [behind] using other
  · cases mine
    dsimp only
    split
    · exact nofun
    · assumption
  · cases mine
    exact waits

/-- A refusal that the count has room for, or one of a primary that goes to the back. -/
theorem inv_retried {w : World} {op : Operation} (inv : Inv app w) (answers : Answers app op (.ok .retryRelease) w) :
    Inv app (w.finish op (.ok .retryRelease)) := by
  rw [World.finish]
  split
  · refine ⟨inv.counted,.inl ?_,nofun,nofun,nofun⟩
    have := inv.bounded
    dsimp only
    omega
  · rename_i calm
    refine ⟨inv.counted,?_,nofun,nofun,nofun⟩
    rcases answers.reason rfl with troubled | moved | ⟨primary,waits⟩
    · exact absurd troubled calm
    · exact .inl (inv.slack moved)
    · rcases inv.bounded with most | ⟨_,v,behind,leads,_⟩
      · exact .inr ⟨Nat.succ_le_succ most,op.1,rfl,primary,waits⟩
      · have same : v = op.1 := Option.some.inj (leads.symm.trans primary)
        exact absurd (same ▸ behind) (inv.ahead op answers.mine)

theorem inv_finish {w : World} {op : Operation} {r : Except Exn OperationResult} (inv : Inv app w)
    (answers : Answers app op r w) : Inv app (w.finish op r) := by
  have := inv.bounded
  rcases r with e | (_ | _)
  · refine ⟨inv.counted,.inl ?_,nofun,nofun,inv.holder⟩
    dsimp only [World.finish]
    omega
  · refine ⟨?_,.inl ?_,nofun,nofun,nofun⟩
    · have erased := List.length_erase_of_mem (inv.holder op answers.mine)
      have one := List.length_pos_of_mem (inv.holder op answers.mine)
      have counted := inv.counted
      dsimp only [World.finish]
      omega
    · dsimp only [World.finish]
      omega
  · exact inv_retried inv answers

theorem inv_act {w : World} (inv : Inv app w) (a : Act) : Inv app (w.act a) ∧ Env w (w.act a) := by
  cases a with
  | request v =>
    rw [World.act]
    split
    · exact ⟨inv,rfl,fun _ waits => waits,id,id,.inr rfl⟩
    · have more (x : Operation) (waits : x ∈ w.waiting) : x ∈ w.waiting ++ [v] := List.mem_append_left [v] waits
      refine ⟨⟨?_,?_,inv.slack,inv.ahead,fun x mine => more x (inv.holder x mine)⟩,rfl,more,id,id,.inr rfl⟩
      · rw [List.length_append,List.length_singleton,← Nat.add_assoc,inv.counted]
      · exact inv.bounded.imp_right fun ⟨most,x,behind,primary,others⟩ =>
          ⟨most,x,behind,primary,waits_mono more others⟩
  | elect primary =>
    rw [World.act]
    split
    · exact ⟨inv,rfl,fun _ waits => waits,id,id,.inr rfl⟩
    · have := inv.bounded
      refine ⟨⟨inv.counted,.inl ?_,fun _ => ?_,inv.ahead,inv.holder⟩,rfl,fun _ waits => waits,id,fun _ => rfl,.inl rfl⟩
      · dsimp only
        omega
      · dsimp only
        omega

theorem fulfils : (contract app).Fulfils (system app) (duties app) where
  begins _ _ job _ inv granted :=
    have ⟨inv',lock,mine⟩ := begins inv granted
    ⟨inv',lock.imp_right fun same => ⟨job.1,same⟩,mine⟩
  finishes _ _ job _ inv answers := ⟨inv_finish inv answers,.inr ⟨job.1,answers.mine⟩⟩
  acts _ a inv _ := inv_act inv a
  jobs u job := outline_program (app.charm u) job.2
  lasts _ _ r := answers_lasts r

theorem inv_empty : Inv app empty := ⟨rfl,.inl (Nat.le_refl 0),nofun,nofun,nofun⟩

theorem exists_of_othersWait {w : World} (waits : othersWait app w u = true) : ∃ op ∈ w.waiting, op.1 ≠ u := by
  simp only [othersWait,List.any_eq_true,Application.others,List.mem_filter,bne_iff_ne,beq_iff_eq] at waits
  obtain ⟨v,⟨_,other⟩,op,there,its⟩ := waits
  exact ⟨op,there,its ▸ other⟩

/-- The holder of the lock comes again; when nobody holds it, the unit that is behind
    the others leaves it to one of them. -/
theorem granted_of_waits {w : World} {op : Operation} (inv : Inv app w) (waits : op ∈ w.waiting) :
    ∃ first, (w.grant app first).isSome = true := by
  have grants (x : Operation) (free : w.lock = some x ∨ w.lock = none) (there : x ∈ w.waiting)
      (ahead : ¬ (w.behind = some x.1 ∧ othersWait app w x.1 = true)) : (w.grant app x).isSome = true := by
    rw [World.grant,if_pos ⟨free,there,ahead⟩]
    rfl
  cases lock : w.lock with
  | some x => exact ⟨x,grants x (.inl lock) (inv.holder x lock) fun last => inv.ahead x lock last.1⟩
  | none =>
    by_cases last : w.behind = some op.1 ∧ othersWait app w op.1 = true
    · obtain ⟨x,there,other⟩ := exists_of_othersWait last.2
      exact ⟨x,grants x (.inr lock) there fun also => other (Option.some.inj (also.1.symm.trans last.1))⟩
    · exact ⟨op,grants op (.inr lock) waits last⟩

end

/-- In every order of requests, callbacks and elections, with any answers: each request
    waits or has been released, the callbacks are no more than two for each request, two
    for each one that is disturbed, two for each election and one, and while an operation
    waits, the manager has one to call. -/
theorem queue_drained (app : Application) (labels : List (Label UnitId Job Call Reply Exn Act)) :
    let w := ((system app).run (idle empty) labels).world
    w.released + w.waiting.length = w.requested ∧
    w.released + w.refused + w.disturbed ≤ 2 * w.requested + 2 * w.disturbed + 2 * w.elections + 1 ∧
    (w.waiting ≠ [] → ∃ op, (w.grant app op).isSome = true) := by
  intro w
  have bound := Contract.bound_run (@fulfils app) (Contract.bound_idle inv_empty) labels
    (System.allAllowed_unrestricted _ _ labels)
  have inv : Inv app w := bound.1
  refine ⟨inv.counted,?_,fun waits => ?_⟩
  · have counted := inv.counted
    have bounded := inv.bounded
    omega
  · obtain ⟨op,there⟩ := List.exists_mem_of_ne_nil _ waits
    exact granted_of_waits inv there

end MysqlOperators.RollingQueue
