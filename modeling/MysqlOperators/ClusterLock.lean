import MysqlOperators.Interleaving
import MysqlOperators.Helpers
import Mathlib.Logic.Function.Basic

/-!
The lock of the operations on the instances of a cluster. Units add, rejoin and
remove instances through one primary, whose table records the executor of each task.
-/
namespace MysqlOperators.ClusterLock
open MysqlOperators.Program MysqlOperators.Program.Prog MysqlOperators.External MysqlOperators.Clients
open MysqlOperators.Clients.ClusterClient (additionTask removalTask acquireLock releaseLock locking)
open MysqlOperators.Interleaving Contract.Local
open Function (update update_self update_of_ne update_eq_self)

/-- `add_instance` with any method. -/
def addInstance (at_ : Target) (label host method : String) : Hook Unit :=
  locking at_ label additionTask <|
    (ask (.attachInstance at_ label host method)).tryExcept Exn.isExecutionError fun e =>
      if method = "clone" then raise e else ask (.attachInstance at_ label host "clone")

theorem addInstance_auto (at_ : Target) (label host : String) :
    addInstance at_ label host "auto" = ClusterClient.addInstance at_ label host := rfl

/-! ### The server and its clients -/

/-- The units and their labels, and the primary that they all use. -/
structure Application where
  label : UnitId → String
  distinct : Function.Injective label
  primary : Target

inductive Job where
  | addInstance (host method : String)
  | rejoinInstance (host : String)
  | removeInstance (host : String)
deriving DecidableEq, Repr

def Job.task : Job → String
  | .addInstance _ _ | .rejoinInstance _ => additionTask
  | .removeInstance _ => removalTask

/-- The attempts of a job to acquire its lock, whether the last of them raised with the
    unit recorded as the executor, and whether the release queries raised. -/
structure Progress where
  attempts : Nat
  leaked : Bool
  unreleased : Bool
deriving DecidableEq, Repr

/-- The executors of the tasks in the table, and the job of each unit. -/
structure World where
  executor : String → Option String
  hook : UnitId → Progress

def Job.program (app : Application) (u : UnitId) : Job → Hook Unit
  | .addInstance host method => ClusterLock.addInstance app.primary (app.label u) host method
  | .rejoinInstance host => ClusterClient.rejoinInstance app.primary (app.label u) host
  | .removeInstance host => ClusterClient.removeInstance app.primary (app.label u) host

namespace World

/-- The acquire query records an executor where there is none, the release query
    clears its own. -/
def change (w : World) : Call → World
  | .executeSql _ (.lockAcquire task label) =>
    if w.executor task = none then { w with executor := update w.executor task (some label) } else w
  | .executeSql _ (.lockRelease task label) =>
    if w.executor task = some label then { w with executor := update w.executor task none } else w
  | _ => w

def changed (w : World) (c : Call) (r : Except Exn (Reply c)) (happened : Bool) : World :=
  match r with
  | .ok _ => w.change c
  | .error _ => if happened then w.change c else w

/-- The fetch query that follows either query returns the current executor. -/
def answer (w : World) (_ : UnitId) : (c : Call) → Except Exn (Reply c) → Except Exn (Reply c)
  | .executeSql at_ (.lockAcquire task label), .ok _ =>
    .ok ((w.change (.executeSql at_ (.lockAcquire task label))).executor task).toList
  | .executeSql at_ (.lockRelease task label), .ok _ =>
    .ok ((w.change (.executeSql at_ (.lockRelease task label))).executor task).toList
  | _, r => r

end World

namespace Application
variable (app : Application)

/-- The progress after a call that left the table as in `w`. The tenth attempt is the
    last, and so is one that raises what is not an `Exception`. -/
def after (u : UnitId) (p : Progress) (w : World) (c : Call) (r : Except Exn (Reply c)) : Progress :=
  match c,r with
  | .executeSql _ (.lockAcquire task _), .error e =>
    { p with
      attempts := p.attempts + 1
      leaked := (p.attempts == 9 || !e.isException) && w.executor task == some (app.label u) }
  | .executeSql _ (.lockAcquire _ _), .ok _ => { p with attempts := p.attempts + 1 }
  | .executeSql _ (.lockRelease _ _), .error _ => { p with unreleased := true }
  | _, _ => p

def effect (w : World) (u : UnitId) (c : Call) (r : Except Exn (Reply c)) (happened : Bool) : World :=
  let w' := w.changed c r happened
  { w' with hook := update w.hook u (app.after u (w.hook u) w' c r) }

def system : System UnitId Job Call Reply Exn Unit World Empty where
  program u job := job.program app u
  answer := World.answer
  effect := app.effect
  begin_ w u _ := some { w with hook := update w.hook u ⟨0,false,false⟩ }
  finish w _ _ _ := w
  act _ := nofun

end Application

/-- The task whose section a unit is in when it makes the call. -/
def sectionOf : Call → Option String
  | .attachInstance _ _ _ _ | .rejoinInstance _ _ => some additionTask
  | .detachInstance _ _ => some removalTask
  | .executeSql _ (.lockRelease task _) => some task
  | _ => none

/-- At most one unit is in a section of a task. -/
def Exclusive (s : State UnitId Job Call Reply Exn Unit World) : Prop :=
  ∀ u v task, (s.next u).bind sectionOf = some task → (s.next v).bind sectionOf = some task → u = v

/-- The unit's section has ended, and its release queries, if any, have worked. -/
def Ended (s : State UnitId Job Call Reply Exn Unit World) (u : UnitId) (job : Job) : Prop :=
  (∃ r, s.result u = some (job,r)) ∧ 0 < (s.world.hook u).attempts ∧ (s.world.hook u).unreleased = false

/-- The unit is recorded as the executor of the task. -/
def Holding (app : Application) (w : World) (u : UnitId) (task : String) : Prop :=
  w.executor task = some (app.label u)

/-- No unit holds the lock of a section that has ended. -/
def Released (app : Application) (s : State UnitId Job Call Reply Exn Unit World) : Prop :=
  ∀ u job, Ended s u job → ¬ Holding app s.world u job.task

/-- No section has ended with a last attempt that raised and left the unit recorded. -/
def NoneLeaked (s : State UnitId Job Call Reply Exn Unit World) : Prop :=
  ∀ u job, Ended s u job → (s.world.hook u).leaked = false

/-! ### What a unit knows -/

section
variable (app : Application)

/-- The progress of a unit, and the tasks whose executor it is. -/
structure Own where
  progress : Progress
  holds : String → Bool

def own (u : UnitId) (w : World) : Own := ⟨w.hook u,fun task => w.executor task == some (app.label u)⟩

def contract : Contract UnitId Call Reply Exn World Empty where
  condition := System.unrestricted
  inv _ := True
  guarantee u w w' := ∀ v, v ≠ u → own app v w' = own app v w
  environment _ _ := False
  safe w u c := ∀ task, sectionOf c = some task → (own app u w).holds task = true

/-- The unit has made `n` attempts. -/
def Trying (n : Nat) (o : Own) : Prop := o.progress = ⟨n,false,false⟩

/-- The unit is the executor, by an attempt that has succeeded. -/
def Locked (task : String) (o : Own) : Prop :=
  o.holds task = true ∧ o.progress.leaked = false ∧ o.progress.unreleased = false

/-- After a section the unit is the executor just if its last attempt has left it so. -/
def Settled (task : String) (o : Own) : Prop :=
  0 < o.progress.attempts → o.progress.unreleased = false → (o.holds task = true ↔ o.progress.leaked = true)

def duties : Contract.Duties UnitId Job Exn Unit World where
  starts u _ w := Trying 0 (own app u w)
  ends u job _ w := Settled job.task (own app u w)

variable {app} {u : UnitId} {α : Type} {P : Own → Prop} {task : String}

variable (app u) in
/-- The knowledge of a unit, for the rules. -/
def view : Contract.Local (contract app) app.system u Own :=
  owning app.system (own app u) (by
    rintro w w' _ _ (impossible | ⟨v,other,guarantee⟩)
    · exact impossible.elim
    · exact guarantee u (Ne.symm other))

/-- A query with the label of a unit leaves the others what they hold. -/
theorem holds_change {c : Call} {v : UnitId} (other : v ≠ u) (at_ : Target)
    (query : c = .executeSql at_ (.lockAcquire task (app.label u)) ∨
      c = .executeSql at_ (.lockRelease task (app.label u))) (w : World) :
    (own app v (w.change c)).holds = (own app v w).holds := by
  have labels : app.label u ≠ app.label v := fun same => other (app.distinct same).symm
  funext t
  rcases query with rfl | rfl
  · simp only [own,World.change]
    split
    · rename_i free
      by_cases same : t = task
      · subst same
        simp [free,labels]
      · simp [update_of_ne same]
    · rfl
  · simp only [own,World.change]
    split
    · rename_i mine
      by_cases same : t = task
      · subst same
        simp [mine,labels]
      · simp [update_of_ne same]
    · rfl

theorem holds_changed {c : Call} {v : UnitId} (kept : ∀ w : World, (own app v (w.change c)).holds = (own app v w).holds)
    (w : World) (r : Except Exn (Reply c)) (happened : Bool) :
    (own app v (w.changed c r happened)).holds = (own app v w).holds := by
  unfold World.changed
  split
  · exact kept w
  · split
    · exact kept w
    · rfl

theorem goes_call {c : Call} {Q : Except Exn (Reply c) → Own → Prop}
    (kept : ∀ v, v ≠ u → ∀ w : World, (own app v (w.change c)).holds = (own app v w).holds)
    (safe : ∀ o, P o → ∀ task, sectionOf c = some task → o.holds task = true)
    (learns : ∀ w raw happened, P (own app u w) →
      Q (World.answer w u c raw) (own app u (app.effect w u c (World.answer w u c raw) happened))) :
    (view app u).Goes (ask c) P Q := by
  refine goes_perform fun w _ known => ⟨safe _ known,fun raw happened _ => ⟨trivial,fun v other => ?_,?_⟩⟩
  · have hook : (app.effect w u c (World.answer w u c raw) happened).hook v = w.hook v := update_of_ne other ..
    have same := holds_changed (kept v other) w (World.answer w u c raw) happened
    show own app v (app.effect w u c (World.answer w u c raw) happened) = own app v w
    simp only [own,hook] at same ⊢
    exact congrArg (Own.mk _) same
  · exact learns w raw happened known

/-- Calls that are no queries of the lock. -/
def plain : Call → Bool
  | .executeSql _ _ => false
  | _ => true

theorem own_plain {c : Call} (calm : plain c = true) (w : World) (v : UnitId) (r : Except Exn (Reply c))
    (happened : Bool) : own app v (app.effect w u c r happened) = own app v w := by
  have change : w.changed c r happened = w := by
    have same : w.change c = w := by
      unfold World.change
      split <;> first | rfl | cases calm
    unfold World.changed
    rw [same]
    split
    · rfl
    · exact ite_self w
  have after : app.after u (w.hook u) w c r = w.hook u := by
    unfold Application.after
    split <;> first | rfl | cases calm
  simp only [Application.effect,change,after]
  rw [update_eq_self]

theorem goes_plain {c : Call} (calm : plain c = true)
    (safe : ∀ o, P o → ∀ task, sectionOf c = some task → o.holds task = true) :
    (view app u).Goes (ask c) P (fun _ => P) := by
  have change (w : World) : w.change c = w := by
    unfold World.change
    split <;> first | rfl | cases calm
  refine goes_call (fun v _ w => by rw [change]) safe fun w raw happened known => ?_
  rw [own_plain calm]
  exact known

/-! ### The section -/

theorem contains_toList (executor : Option String) (label : String) :
    executor.toList.contains label = (executor == some label) := by
  cases executor with
  | none => rfl
  | some name =>
    rw [Bool.eq_iff_iff]
    simpa using eq_comm

/-- An attempt to acquire. -/
theorem goes_acquireLock {n : Nat} : (view app u).Goes (acquireLock app.primary (app.label u) task) (Trying n)
    (fun r o => (r = .ok () → Locked task o) ∧
      (∀ e, r = .error e → (n < 9 → e.isException = true → Trying (n+1) o) ∧
        (n = 9 ∨ e.isException = false → Settled task o))) := by
  have query : (view app u).Goes (ask (.executeSql app.primary (.lockAcquire task (app.label u)))) (Trying n)
      (fun r o => match r with
        | .ok locks => o.progress = ⟨n+1,false,false⟩ ∧ locks.contains (app.label u) = o.holds task
        | .error e => o.progress = ⟨n+1,(n == 9 || !e.isException) && o.holds task,false⟩) := by
    refine goes_call (fun v other => holds_change other app.primary (.inl rfl)) (fun _ _ _ => nofun) ?_
    intro w raw happened known
    have known : w.hook u = ⟨n,false,false⟩ := known
    cases raw with
    | error e => simp [World.answer,Application.effect,Application.after,own,known,World.changed]
    | ok _ =>
      refine ⟨by simp [World.answer,Application.effect,Application.after,own,known],?_⟩
      simp only [own,Application.effect,World.changed]
      exact contains_toList _ _
  refine goes_bind query (fun locks => goes_ite _ (fun held => ?_) (fun missing => ?_)) (fun e o known => ?_)
  · refine goes_pure fun o known => ⟨fun _ => ?_,nofun⟩
    obtain ⟨progress,contains⟩ := known
    exact ⟨by rw [← contains,held],by rw [progress],by rw [progress]⟩
  · refine goes_raise fun o known => ⟨nofun,fun _ _ => ⟨fun _ _ => known.1,fun last _ _ => ?_⟩⟩
    have free : o.holds task = false := by rw [← known.2]; simpa using missing
    rw [free,known.1]
  · have progress : o.progress = ⟨n+1,(n == 9 || !e.isException) && o.holds task,false⟩ := known
    refine ⟨nofun,fun e' same => ?_⟩
    cases same
    refine ⟨fun more repeated => ?_,fun last _ _ => ?_⟩
    · have early : (n == 9) = false := by simp; omega
      rw [early,repeated] at progress
      exact progress
    · have ended : (n == 9 || !e.isException) = true := by simpa using last
      rw [progress,ended]
      simp

/-- Attempts are made until one succeeds or the last has failed. -/
theorem goes_attempts : ∀ more n, n + more = 9 →
    (view app u).Goes (retry more Exn.isException (acquireLock app.primary (app.label u) task)) (Trying n)
      (fun r o => (r = .ok () → Locked task o) ∧ (∀ e, r = .error e → Settled task o))
  | 0, n, count => by
    refine goes_post goes_acquireLock fun r o known => ⟨known.1,fun e failed => (known.2 e failed).2 (.inl ?_)⟩
    omega
  | more+1, n, count => by
    refine goes_tryElse goes_acquireLock (fun e repeated => ?_) (fun _ => ?_) (fun e final o known => ?_)
    · exact goes_pre (goes_attempts more (n+1) (by omega)) fun o known => (known.2 e rfl).1 (by omega) repeated
    · exact goes_pure fun o known => ⟨fun _ => known.1 rfl,nofun⟩
    · refine ⟨nofun,fun e' same => ?_⟩
      cases same
      exact (known.2 e rfl).2 (.inr final)

theorem goes_releaseLock : (view app u).Goes (releaseLock app.primary (app.label u) task) (Locked task)
    (fun _ => Settled task) := by
  have query : (view app u).Goes (ask (.executeSql app.primary (.lockRelease task (app.label u)))) (Locked task)
      (fun _ => Settled task) := by
    refine goes_call (fun v other => holds_change other app.primary (.inr rfl)) (fun o known t inside => ?_) ?_
    · cases inside
      exact known.1
    · rintro w raw happened ⟨held,leaked,unreleased⟩
      have mine : w.executor task = some (app.label u) := by simpa [own] using held
      have kept : (w.hook u).leaked = false := leaked
      cases raw with
      | error e => intro _ released; simp [World.answer,Application.effect,Application.after,own] at released
      | ok _ =>
        intro _ _
        simp [World.answer,Application.effect,Application.after,own,World.changed,World.change,mine,kept]
  refine goes_bind query (fun locks => ?_) (fun _ _ known => known)
  exact goes_ite _ (fun _ => goes_raise fun _ known => known) (fun _ => goes_pure fun _ known => known)

/-- The body runs while the unit is the executor, and the lock is released however it
    ends. -/
theorem goes_locking {body : Hook Unit} (inside : (view app u).Goes body (Locked task) (fun _ => Locked task)) :
    (view app u).Goes (locking app.primary (app.label u) task body) (Trying 0) (fun _ => Settled task) := by
  refine goes_bind (goes_attempts 9 0 rfl) (fun _ => ?_) (fun e o known => known.2 e rfl)
  refine goes_pre (goes_finallyDo inside (fun _ => goes_releaseLock) (fun _ _ known => known)
    (fun _ _ _ known => known)) (fun o known => known.1 rfl)

theorem goes_inside {c : Call} (calm : plain c = true) (own : sectionOf c = some task) :
    (view app u).Goes (ask c) (Locked task) (fun _ => Locked task) := by
  refine goes_plain calm fun o known t inside => ?_
  obtain rfl : task = t := Option.some.inj (own.symm.trans inside)
  exact known.1

theorem goes_job (job : Job) : (view app u).Goes (job.program app u) (Trying 0) (fun _ => Settled job.task) := by
  cases job with
  | addInstance host method =>
    refine goes_locking (goes_tryElse (goes_inside rfl rfl) (fun e _ => ?_) (fun _ => ?_)
      (fun _ _ _ known => known))
    · refine goes_ite _ (fun _ => goes_raise fun _ known => known) (fun _ => goes_inside rfl rfl)
    · exact goes_pure fun _ known => known
  | rejoinInstance host => exact goes_locking (goes_inside rfl rfl)
  | removeInstance host =>
    have skipped {o : Own} (trying : Trying 0 o) : Settled removalTask o := by
      intro attempted
      rw [trying] at attempted
      cases attempted
    have primary : (view app u).Goes (ClusterClient.fetchPrimaryHost app.primary) (Trying 0) (fun _ => Trying 0) := by
      refine goes_tryElse (goes_plain rfl fun _ _ => nofun) (fun _ _ => goes_pure fun _ known => known)
        (fun status => goes_ite _ (fun _ => goes_pure fun _ known => known) (fun _ => ?_)) (fun _ _ _ known => known)
      cases status.primary with
      | none => exact goes_raise fun _ known => known
      | some address => exact goes_pure fun _ known => known
    refine goes_bind primary (fun found => ?_) (fun _ _ known => skipped known)
    refine goes_ite _ (fun _ => goes_pure fun _ known => skipped known) (fun _ => ?_)
    exact goes_locking (goes_inside rfl rfl)

theorem fulfils : (contract app).Fulfils app.system (duties app) where
  begins w u job w' _ begun := by
    cases begun
    refine ⟨trivial,fun v other => ?_,?_⟩
    · simp [own,update_of_ne other]
    · simp [duties,Trying,own]
  finishes w u job r _ _ := ⟨trivial,fun _ _ => rfl⟩
  acts _ a := nomatch a
  jobs u job := goes_job job
  lasts u job r := (view app u).stable (Settled job.task)

end

/-- From every table, in every order of operations and with all failures of queries, the
    units exclude each other. A unit whose section has ended is the executor just if its
    last attempt raised with the unit recorded. -/
theorem section_locks (app : Application) (w : World) (labels : List (Label UnitId Job Call Reply Exn Empty)) :
    Exclusive (app.system.run (idle w) labels) ∧
      (Released app (app.system.run (idle w) labels) ↔ NoneLeaked (app.system.run (idle w) labels)) := by
  have bound := Contract.bound_run (@fulfils app) (Contract.bound_idle trivial) labels
    (app.system.allAllowed_unrestricted (idle w) labels)
  generalize app.system.run (idle w) labels = s at bound
  constructor
  · intro u v task first second
    obtain ⟨c,mine,inside⟩ := Option.bind_eq_some_iff.mp first
    obtain ⟨c',other,inside'⟩ := Option.bind_eq_some_iff.mp second
    have held := Contract.safe_of_bound bound mine task inside
    have held' := Contract.safe_of_bound bound other task inside'
    simp only [own,beq_iff_eq] at held held'
    exact app.distinct (Option.some.inj (held.symm.trans held'))
  · have settled {u : UnitId} {job : Job} (ended : Ended s u job) :
        Holding app s.world u job.task ↔ (s.world.hook u).leaked = true := by
      obtain ⟨⟨r,result⟩,attempted,released⟩ := ended
      have owed : Settled job.task (own app u s.world) := Contract.duty_of_bound bound result
      simpa [own,Holding] using owed attempted released
    constructor
    · intro released u job ended
      have free := released u job ended
      rw [settled ended] at free
      simpa using free
    · intro sound u job ended holding
      have leaked := (settled ended).mp holding
      rw [sound u job ended] at leaked
      cases leaked

/-- The units of an application on machines. -/
def machines : Application where
  label := Helpers.getUnitLabel ⟨.vm,"mysql",0,"cluster","10.0.0.10"⟩
  distinct _ _ := Helpers.label_injective _
  primary := .host "10.0.0.1"

def unlocked : World := ⟨fun _ => none,fun _ => ⟨0,false,false⟩⟩

/-- A unit rejoins, and the connection is lost whenever its query has been executed. -/
def lostAnswers : List (Label UnitId Job Call Reply Exn Empty) :=
  .start 1 (.rejoinInstance "10.0.0.2") ::
    List.replicate 10 (.call 1 (fun _ => .error ⟨.executionError,"Lost connection to MySQL server"⟩) true)

/-- The ten attempts fail, and the unit is left recorded as the executor. -/
theorem lostAnswers_holds :
    ¬ ∀ (app : Application) (w : World) (labels : List (Label UnitId Job Call Reply Exn Empty)),
      Exclusive (app.system.run (idle w) labels) ∧ Released app (app.system.run (idle w) labels) := by
  intro always
  have result : (machines.system.run (idle unlocked) lostAnswers).result 1 =
      some (.rejoinInstance "10.0.0.2",.error ⟨.executionError,"Lost connection to MySQL server"⟩) := by rfl
  have ended : Ended (machines.system.run (idle unlocked) lostAnswers) 1 (.rejoinInstance "10.0.0.2") :=
    ⟨⟨_,result⟩,by decide +kernel,by decide +kernel⟩
  refine (always machines unlocked lostAnswers).2 1 _ ended ?_
  show _ = _
  decide +kernel

end MysqlOperators.ClusterLock
