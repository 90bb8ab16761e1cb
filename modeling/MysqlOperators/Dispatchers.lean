import MysqlOperators.Quiet
import MysqlOperators.Scripted

/-!
The operator services: each is a process that dispatches events to the charm, which
starts it when a handler is constructed and knows it by a pid in the databag of the unit.
A run is a list of events of one unit: hooks, each with a script and a handler of its own,
reboots, processes that end and unrelated processes that start. The databag writes of a
hook that fails are discarded, its processes are not.
-/
namespace MysqlOperators.Dispatchers
open MysqlOperators.Program MysqlOperators.Program.Prog MysqlOperators.External MysqlOperators.Clients
open MysqlOperators.Workload MysqlOperators.Helpers MysqlOperators.Quiet MysqlOperators.Scripted
set_option linter.unusedSimpArgs false

/-! ### The services -/

inductive OperatorService where
  | address
  | logrotate
  | selfHealing
deriving DecidableEq, Repr

namespace OperatorService

def name : OperatorService → String
  | address => "IP address"
  | logrotate => "log-rotate"
  | selfHealing => "self-healing"

/-- `PeerStateUnit.service_*_pid_key`. -/
def pidKey : OperatorService → String
  | address => "ip-address-manager-pid"
  | logrotate => "log-rotate-manager-pid"
  | selfHealing => "self-healing-manager-pid"

theorem name_injective {s t : OperatorService} (same : s.name = t.name) : s = t := by
  cases s <;> cases t <;> first | rfl | exact absurd same (by decide)

theorem pidKey_injective {s t : OperatorService} (same : s.pidKey = t.pidKey) : s = t := by
  cases s <;> cases t <;> first | rfl | exact absurd same (by decide)

def getProcessId (s : OperatorService) : Hook (Option Nat) := do
  match nonEmpty (← ask (.unitData s.pidKey)) with
  | none => pure none
  | some text =>
    match Python.number text.toList with
    | none => raise ⟨.valueError,"invalid literal for int() with base 10: '" ++ text ++ "'"⟩
    | some pid => pure (some pid)

def setProcessId (s : OperatorService) (pid : Nat) : Hook Unit := ask (.setUnitData s.pidKey (toString pid))

/-- `BaseOperatorService.running`. -/
def running (s : OperatorService) : Hook Bool := do
  match ← getProcessId s with
  | none => pure false
  | some pid => if pid = 0 then pure false else ask (.processExists pid)

/-- `BaseOperatorService.start`. -/
def start (s : OperatorService) : Hook Unit := do
  if ← running s then pure ()
  else do
    let pid ← ask (.startDispatcher s.name)
    setProcessId s pid

end OperatorService

open OperatorService

/-- What the constructor of the event handler of a service does. -/
def startService (charm : Charm) (s : OperatorService) : Hook Unit := do
  if ← initialized charm then s.start else pure ()

/-- The services, in the order in which the charm constructs their handlers. -/
def services : Substrate → List OperatorService
  | .vm => [.address,.logrotate,.selfHealing]
  | .k8s => [.logrotate,.selfHealing]

def constructHandlers (charm : Charm) : Hook Unit := (services charm.substrate).forM (startService charm)

/-! ### The machine -/

inductive Process where
  | dispatcher (name : String)
  | other
deriving DecidableEq, Repr

/-- The processes of the machine by their pids, and the databag of the unit, where the
    last write of a key stands first. -/
structure Machine where
  processes : List (Nat × Process)
  databag : Databag
deriving DecidableEq, Repr

namespace Machine

/-- A pid that a new process can get. -/
def free (w : Machine) (pid : Nat) : Bool := pid ≠ 0 && (w.processes.lookup pid).isNone

/-- The system never hands out a pid that is in use. -/
def answer (w : Machine) : (c : Call) → Except Exn (Reply c) → Except Exn (Reply c)
  | .unitData key, .ok _ => .ok (w.databag.lookup key)
  | .processExists pid, .ok _ => .ok (w.processes.lookup pid).isSome
  | .startDispatcher name, .ok pid => if w.free pid then .ok pid else .error ⟨.osError,name⟩
  | _, r => r

def launch (w : Machine) (name : String) (pid : Nat) : Machine :=
  { w with processes := (pid,.dispatcher name) :: w.processes }

def record (w : Machine) (key value : String) : Machine := { w with databag := (key,value) :: w.databag }

/-- The pid in the databag. -/
def recorded (w : Machine) (s : OperatorService) : Option Nat :=
  (nonEmpty (w.databag.lookup s.pidKey)).bind fun text => Python.number text.toList

/-- What the charm takes for a running service. -/
def runs (w : Machine) (s : OperatorService) : Bool :=
  match w.recorded s with
  | none => false
  | some pid => pid ≠ 0 && (w.processes.lookup pid).isSome

end Machine

def rules : Rules Machine Call Reply Exn where
  answer := Machine.answer
  effect w
    | .startDispatcher name, .ok pid, _ => w.launch name pid
    | .setUnitData key value, .ok _, _ => w.record key value
    | .setUnitData key value, .error _, happened => if happened then w.record key value else w
    | _, _, _ => w

/-! ### Runs -/

/-- Calls that start a dispatcher or record its pid. -/
def dispatches : Call → Bool
  | .startDispatcher _ => true
  | .setUnitData key _ => key = address.pidKey || key = logrotate.pidKey || key = selfHealing.pidKey
  | _ => false

/-- What a hook does once the handlers are constructed. -/
structure Body where
  run : Hook Unit
  keeps : Avoids (fun c => dispatches c = true) run

inductive Event where
  | hook (script : Script Call Reply Exn) (body : Body)
  | exits (pid : Nat)
  | spawns (pid : Nat)
  | reboot

def outcome (charm : Charm) (script : Script Call Reply Exn) (body : Body) (w : Machine) :
    Except Exn Unit × Scene Machine Call :=
  play rules script (do constructHandlers charm; body.run) w

def step (charm : Charm) (w : Machine) : Event → Machine
  | .hook script body => match outcome charm script body w with
    | (.ok _,s) => s.world
    | (.error _,s) => { s.world with databag := w.databag }
  | .exits pid => { w with processes := w.processes.filter (fun entry => entry.1 ≠ pid) }
  | .spawns pid => if w.free pid then { w with processes := (pid,.other) :: w.processes } else w
  | .reboot => { w with processes := [] }

def after (charm : Charm) (events : List Event) : Machine := events.foldl (step charm) ⟨[],[]⟩

/-- There is one dispatcher of a service. -/
def Single (w : Machine) (s : OperatorService) : Prop :=
  w.processes.countP (fun entry => entry.2 = .dispatcher s.name) = 1

/-- A property of the scenes in which the handlers are constructed, one by one. -/
def Each (charm : Charm) (script : Script Call Reply Exn) (P : OperatorService → Scene Machine Call → Prop) :
    List OperatorService → Scene Machine Call → Prop
  | [], _ => True
  | s :: rest, scene =>
    P s scene ∧ Each charm script P rest (run (respond rules script) (startService charm s) scene).2

/-- The charm is initialised when the handler of a service is constructed. -/
def Initialised (charm : Charm) (script : Script Call Reply Exn) (_ : OperatorService) (s : Scene Machine Call) : Prop :=
  (run (respond rules script) (initialized charm) s).1 = .ok true

/-- A dispatcher is started only in a hook that completes, and gets no pid that is
    recorded for another service. -/
def Starts (charm : Charm) (script : Script Call Reply Exn) (completes : Prop) (s : OperatorService)
    (scene : Scene Machine Call) : Prop :=
  Initialised charm script s scene → scene.world.runs s = false →
    ∀ pid, script.reply (.startDispatcher s.name) (scene.log.count (.startDispatcher s.name)) = .ok pid →
      completes ∧ ∀ t, t ≠ s → scene.world.recorded t ≠ some pid

/-- The condition on one event. -/
def Fine (charm : Charm) (w : Machine) : Event → Prop
  | .hook script body =>
    Each charm script (Starts charm script ((outcome charm script body w).1 = .ok ())) (services charm.substrate) ⟨w,[]⟩
  | .spawns pid => ∀ s, w.recorded s ≠ some pid
  | .exits _ | .reboot => True

def AllFine (charm : Charm) : Machine → List Event → Prop
  | _, [] => True
  | w, event :: rest => Fine charm w event ∧ AllFine charm (step charm w event) rest

/-! ### One call -/

section
variable {w : Machine} {script : Script Call Reply Exn}

def changes : Call → Bool
  | .startDispatcher _ | .setUnitData _ _ => true
  | _ => false

theorem effect_same {c : Call} (other : changes c = false) (w : Machine) (r : Except Exn (Reply c)) (happened : Bool) :
    rules.effect w c r happened = w := by
  simp only [rules]
  split
  · cases other
  · cases other
  · cases other
  · rfl

variable (script) in
theorem run_still {α : Type} {p : Hook α} (still : Avoids (fun c => changes c = true) p) (s : Scene Machine Call) :
    (run (respond rules script) p s).2.world = s.world :=
  run_keeps rules script id (fun w _ r happened other => effect_same (by simpa using other) w r happened) still s

theorem still_initialized (charm : Charm) : Avoids (fun c => changes c = true) (initialized charm) := by
  refine avoids_initialized (fun c asks => ?_) Bool.false_ne_true Bool.false_ne_true charm
  unfold probes at asks
  split at asks <;> first | contradiction | exact Bool.false_ne_true

theorem still_running (s : OperatorService) : Avoids (fun c => changes c = true) s.running := by
  refine avoids_bind (avoids_bind (avoids_ask nofun) fun text => ?_) fun pid => ?_
  · split
    · trivial
    · split <;> trivial
  · split
    · trivial
    · exact avoids_ite _ (fun _ => trivial) (fun _ => avoids_ask nofun)

/-- The answer to a call that changes nothing. -/
theorem answered {c : Call} (other : changes c = false) {scene scene' : Scene Machine Call} {a : Reply c}
    (ran : run (respond rules script) (ask c) scene = (.ok a,scene')) :
    scene.world.answer c (script.reply c (scene.log.count c)) = .ok a ∧ scene'.world = scene.world := by
  rw [run_perform,respond] at ran
  have world := congrArg (fun x => x.2.world) ran
  simp only [effect_same other] at world
  exact ⟨congrArg Prod.fst ran,world.symm⟩

theorem run_getProcessId {s : OperatorService} {scene scene' : Scene Machine Call} {pid : Option Nat}
    (ran : run (respond rules script) s.getProcessId scene = (.ok pid,scene')) :
    pid = scene.world.recorded s ∧ scene'.world = scene.world := by
  obtain ⟨text,s₁,asks,rest⟩ := run_bind_eq_ok _ ran
  obtain ⟨answer,world⟩ := answered rfl asks
  have read : text = scene.world.databag.lookup s.pidKey := by
    rcases reply : script.reply (.unitData s.pidKey) (scene.log.count (.unitData s.pidKey)) with e | found
    · rw [reply] at answer
      cases answer
    · rw [reply] at answer
      exact (Except.ok.inj answer).symm
  subst read
  rw [Machine.recorded]
  cases known : nonEmpty (scene.world.databag.lookup s.pidKey) with
  | none =>
    rw [known] at rest
    cases rest
    exact ⟨rfl,world⟩
  | some text =>
    rw [known] at rest
    cases parsed : Python.number text.toList with
    | none =>
      simp only [parsed] at rest
      cases rest
    | some number =>
      simp only [parsed] at rest
      cases rest
      exact ⟨parsed.symm,world⟩

/-- What a service is taken for. -/
theorem run_running {s : OperatorService} {scene scene' : Scene Machine Call} {found : Bool}
    (ran : run (respond rules script) s.running scene = (.ok found,scene')) : found = scene.world.runs s := by
  obtain ⟨pid,s₁,reads,rest⟩ := run_bind_eq_ok _ ran
  obtain ⟨rfl,world⟩ := run_getProcessId reads
  rw [Machine.runs]
  cases known : scene.world.recorded s with
  | none =>
    rw [known] at rest
    cases rest
    rfl
  | some pid =>
    rw [known] at rest
    by_cases zero : pid = 0
    · simp only [if_pos zero] at rest
      cases rest
      simp [zero]
    · simp only [if_neg zero] at rest
      obtain ⟨answer,_⟩ := answered rfl rest
      rcases reply : script.reply (.processExists pid) (s₁.log.count (.processExists pid)) with e | exists_
      · rw [reply] at answer
        cases answer
      · rw [reply] at answer
        have live := Except.ok.inj answer
        rw [world] at live
        simp [zero,← live]

/-- The pid that a start of a service gets. -/
def Launched (script : Script Call Reply Exn) (s : OperatorService) (scene : Scene Machine Call) (pid : Nat) : Prop :=
  script.reply (.startDispatcher s.name) (scene.log.count (.startDispatcher s.name)) = .ok pid ∧
    scene.world.free pid = true

variable (script) in
/-- A call that starts a dispatcher does so, or changes nothing. -/
theorem launch_cases (s : OperatorService) (scene : Scene Machine Call) :
    (∃ e log, run (respond rules script) (ask (.startDispatcher s.name)) scene = (.error e,⟨scene.world,log⟩)) ∨
    ∃ pid log, Launched script s scene pid ∧
      run (respond rules script) (ask (.startDispatcher s.name)) scene =
        (.ok pid,⟨scene.world.launch s.name pid,log⟩) := by
  rw [run_perform]
  rcases reply : script.reply (.startDispatcher s.name) (scene.log.count (.startDispatcher s.name)) with e | pid
  · refine .inl ⟨e,scene.log ++ [.startDispatcher s.name],?_⟩
    simp [respond,reply,rules,Machine.answer]
  · by_cases free : scene.world.free pid = true
    · refine .inr ⟨pid,scene.log ++ [.startDispatcher s.name],⟨reply,free⟩,?_⟩
      simp [respond,reply,rules,Machine.answer,free]
    · refine .inl ⟨⟨.osError,s.name⟩,scene.log ++ [.startDispatcher s.name],?_⟩
      simp [respond,reply,rules,Machine.answer,free]

theorem run_setProcessId {s : OperatorService} {pid : Nat} {scene : Scene Machine Call}
    (completes : (run (respond rules script) (s.setProcessId pid) scene).1 = .ok ()) :
    (run (respond rules script) (s.setProcessId pid) scene).2.world =
      scene.world.record s.pidKey (toString pid) := by
  rw [setProcessId,run_perform,respond] at completes ⊢
  simp only [rules,Machine.answer] at completes ⊢
  rw [completes]

variable (script) in
/-- A start of a service finds it running, or starts a dispatcher, which is recorded if
    nothing raises. -/
theorem start_cases (s : OperatorService) (scene : Scene Machine Call) :
    ((run (respond rules script) s.start scene).2.world = scene.world ∧
      ((run (respond rules script) s.start scene).1 = .ok () → scene.world.runs s = true)) ∨
    (scene.world.runs s = false ∧ ∃ pid, Launched script s scene pid ∧
      ((run (respond rules script) s.start scene).1 = .ok () → (run (respond rules script) s.start scene).2.world =
        (scene.world.launch s.name pid).record s.pidKey (toString pid))) := by
  have world := run_still script (still_running s) scene
  have count := run_count_avoids rules script (c := .startDispatcher s.name) (still_running s)
    (show changes _ = true from rfl) scene
  rw [OperatorService.start,run_bind]
  rcases ran : run (respond rules script) s.running scene with ⟨e | found,s₁⟩
  · rw [ran] at world
    exact .inl ⟨world,nofun⟩
  rw [ran] at world count
  have known := run_running ran
  cases found with
  | true => exact .inl ⟨world,fun _ => known.symm⟩
  | false =>
    have down : scene.world.runs s = false := known.symm
    simp only [Bool.false_eq_true,if_false,run_bind]
    rcases launch_cases script s s₁ with ⟨e,log,raised⟩ | ⟨pid,log,⟨reply,free⟩,started⟩
    · rw [raised]
      exact .inl ⟨world,nofun⟩
    · rw [started]
      refine .inr ⟨down,pid,⟨?_,by rw [← world]; exact free⟩,fun completes => ?_⟩
      · rw [← count]
        exact reply
      · rw [← world]
        exact run_setProcessId completes

variable (script) in
/-- What the constructor of one handler does: nothing, or it starts a dispatcher, which
    is recorded if nothing raises. -/
theorem startService_cases (charm : Charm) (s : OperatorService) (scene : Scene Machine Call) :
    ((run (respond rules script) (startService charm s) scene).2.world = scene.world ∧
      ((run (respond rules script) (startService charm s) scene).1 = .ok () → Initialised charm script s scene →
        scene.world.runs s = true)) ∨
    (Initialised charm script s scene ∧ scene.world.runs s = false ∧ ∃ pid, Launched script s scene pid ∧
      ((run (respond rules script) (startService charm s) scene).1 = .ok () →
        (run (respond rules script) (startService charm s) scene).2.world =
          (scene.world.launch s.name pid).record s.pidKey (toString pid))) := by
  have world := run_still script (still_initialized charm) scene
  have count := run_count_avoids rules script (c := .startDispatcher s.name) (still_initialized charm)
    (show changes _ = true from rfl) scene
  rw [startService,run_bind]
  rcases ran : run (respond rules script) (initialized charm) scene with ⟨e | checked,s₁⟩
  · rw [ran] at world
    exact .inl ⟨world,nofun⟩
  rw [ran] at world count
  dsimp only at world count
  cases checked with
  | false =>
    refine .inl ⟨world,fun _ initialised => ?_⟩
    rw [Initialised,ran] at initialised
    cases initialised
  | true =>
    have initialised : Initialised charm script s scene := by
      rw [Initialised,ran]
    have cases_ := start_cases script s s₁
    simp only [Launched,world,count] at cases_
    rcases cases_ with ⟨same,up⟩ | ⟨down,launched⟩
    · exact .inl ⟨same,fun completes _ => up completes⟩
    · exact .inr ⟨initialised,down,launched⟩

end

/-! ### The invariant -/

theorem lookup_live {l : List (Nat × Process)} {pid : Nat} : (l.lookup pid).isSome = true ↔ ∃ p, (pid,p) ∈ l := by
  rw [List.lookup_isSome_iff]
  constructor
  · rintro ⟨⟨other,p⟩,member,same⟩
    have same : pid = other := by simpa using same
    exact ⟨p,same ▸ member⟩
  · rintro ⟨p,member⟩
    exact ⟨(pid,p),member,by simp⟩

theorem free_iff {w : Machine} {pid : Nat} : w.free pid = true ↔ pid ≠ 0 ∧ ∀ p, (pid,p) ∉ w.processes := by
  have live := @lookup_live w.processes pid
  rw [Machine.free,Bool.and_eq_true,decide_eq_true_eq,← Option.not_isSome,Bool.not_eq_true']
  by_cases some_ : (w.processes.lookup pid).isSome = true
  · obtain ⟨p,member⟩ := live.mp some_
    simp only [some_]
    exact iff_of_false (fun both => nomatch both.2) fun both => both.2 p member
  · have none_ : (w.processes.lookup pid).isSome = false := Bool.eq_false_iff.mpr some_
    simp only [none_,and_true]
    exact ⟨fun positive => ⟨positive,fun p member => some_ (live.mpr ⟨p,member⟩)⟩,fun both => both.1⟩

theorem free_unused {w : Machine} {pid : Nat} (free : w.free pid = true) : pid ∉ w.processes.map Prod.fst := by
  intro used
  obtain ⟨⟨q,p⟩,member,same⟩ := List.mem_map.mp used
  dsimp only at same
  subst same
  exact (free_iff.mp free).2 p member

theorem runs_iff {w : Machine} {s : OperatorService} :
    w.runs s = true ↔ ∃ pid, w.recorded s = some pid ∧ pid ≠ 0 ∧ ∃ p, (pid,p) ∈ w.processes := by
  rw [Machine.runs]
  cases known : w.recorded s with
  | none => simp
  | some pid => simp [lookup_live]

/-- Pids are different, and a dispatcher and the record of its pid belong to each other. -/
structure Tracked (w : Machine) : Prop where
  distinct : (w.processes.map Prod.fst).Nodup
  recorded : ∀ s pid, (pid,.dispatcher s.name) ∈ w.processes → w.recorded s = some pid ∧ pid ≠ 0
  own : ∀ s pid p, w.recorded s = some pid → (pid,p) ∈ w.processes → p = .dispatcher s.name

section
variable {w w' : Machine}

/-- The invariant is about the processes and the records alone. -/
theorem Tracked.congr (tracked : Tracked w) (processes : w'.processes = w.processes)
    (records : ∀ s, w'.recorded s = w.recorded s) : Tracked w' where
  distinct := processes ▸ tracked.distinct
  recorded s pid member := by
    rw [records s]
    exact tracked.recorded s pid (processes ▸ member)
  own s pid p known member := by
    rw [records s] at known
    exact tracked.own s pid p known (processes ▸ member)

/-- Processes that end take nothing from the invariant. -/
theorem Tracked.filter (tracked : Tracked w) (stays : Nat × Process → Bool) :
    Tracked { w with processes := w.processes.filter stays } where
  distinct := tracked.distinct.sublist (List.filter_sublist.map Prod.fst)
  recorded s pid member := tracked.recorded s pid (List.mem_filter.mp member).1
  own s pid p known member := tracked.own s pid p known (List.mem_filter.mp member).1

/-- An unrelated process that takes no recorded pid. -/
theorem Tracked.spawn (tracked : Tracked w) {pid : Nat} (free : w.free pid = true)
    (fresh : ∀ s, w.recorded s ≠ some pid) : Tracked { w with processes := (pid,.other) :: w.processes } where
  distinct := List.nodup_cons.mpr ⟨free_unused free,tracked.distinct⟩
  recorded s q member := by
    rcases List.mem_cons.mp member with new | old
    · cases new
    · exact tracked.recorded s q old
  own s q p known member := by
    rcases List.mem_cons.mp member with new | old
    · obtain ⟨rfl,rfl⟩ := Prod.mk.inj new
      exact absurd known (fresh s)
    · exact tracked.own s q p known old

/-- A dispatcher that has been started and recorded. -/
def Machine.started (w : Machine) (s : OperatorService) (pid : Nat) : Machine :=
  (w.launch s.name pid).record s.pidKey (toString pid)

theorem recorded_started (w : Machine) (s t : OperatorService) (pid : Nat) :
    (w.started s pid).recorded t = if t = s then some pid else w.recorded t := by
  by_cases same : t = s
  · have found : (w.started s pid).databag.lookup t.pidKey = some (toString pid) := by
      rw [same]
      exact List.lookup_cons_self
    have text : nonEmpty (some (toString pid)) = some (toString pid) := by
      have nonempty : toString pid ≠ "" := Nat.repr_ne_empty
      rw [nonEmpty]
      rintro empty
      exact nonempty (Option.some.inj empty)
    rw [if_pos same,Machine.recorded,found,text]
    exact Python.number_toString pid
  · have other : ¬ t.pidKey = s.pidKey := fun keys => same (pidKey_injective keys)
    rw [if_neg same,Machine.recorded,Machine.recorded,Machine.started,Machine.record,List.lookup_cons,
      beq_false_of_ne other]
    rfl

theorem Tracked.started (tracked : Tracked w) {s : OperatorService} {pid : Nat} (down : w.runs s = false)
    (free : w.free pid = true) (fresh : ∀ t, t ≠ s → w.recorded t ≠ some pid) : Tracked (w.started s pid) := by
  obtain ⟨positive,unused⟩ := free_iff.mp free
  refine ⟨?_,fun t q member => ?_,fun t q p known member => ?_⟩
  · exact List.nodup_cons.mpr ⟨free_unused free,tracked.distinct⟩
  · rw [recorded_started]
    rcases List.mem_cons.mp member with new | old
    · obtain ⟨rfl,names⟩ := Prod.mk.inj new
      have same : t = s := name_injective (Process.dispatcher.inj names)
      exact ⟨if_pos same,positive⟩
    · obtain ⟨known,nonzero⟩ := tracked.recorded t q old
      have other : t ≠ s := by
        rintro rfl
        have up : w.runs t = true := runs_iff.mpr ⟨q,known,nonzero,_,old⟩
        rw [down] at up
        cases up
      rw [if_neg other]
      exact ⟨known,nonzero⟩
  · rw [recorded_started] at known
    by_cases same : t = s
    · rw [if_pos same] at known
      have pids : pid = q := Option.some.inj known
      subst pids
      rcases List.mem_cons.mp member with new | old
      · rw [(Prod.mk.inj new).2,same]
      · exact absurd old (unused p)
    · rw [if_neg same] at known
      rcases List.mem_cons.mp member with new | old
      · obtain ⟨rfl,_⟩ := Prod.mk.inj new
        exact absurd known (fresh t same)
      · exact tracked.own t q p known old

theorem runs_started {s t : OperatorService} {pid : Nat} (free : w.free pid = true)
    (up : t = s ∨ w.runs t = true) : (w.started s pid).runs t = true := by
  rw [runs_iff,recorded_started]
  by_cases same : t = s
  · rw [if_pos same]
    exact ⟨pid,rfl,(free_iff.mp free).1,.dispatcher s.name,List.mem_cons_self⟩
  · obtain ⟨q,known,nonzero,p,member⟩ := runs_iff.mp (up.resolve_left same)
    rw [if_neg same]
    exact ⟨q,known,nonzero,p,List.mem_cons_of_mem _ member⟩

/-- One entry of a list whose keys are different. -/
theorem countP_of_distinct {l : List (Nat × Process)} {a : Nat} {b : Process} (distinct : (l.map Prod.fst).Nodup)
    (member : (a,b) ∈ l) (only : ∀ q, (q,b) ∈ l → q = a) : l.countP (fun entry => entry.2 = b) = 1 := by
  induction l with
  | nil => cases member
  | cons entry rest ih =>
    obtain ⟨q,p⟩ := entry
    obtain ⟨absent,distinct⟩ := List.nodup_cons.mp distinct
    rcases List.mem_cons.mp member with head | later
    · obtain ⟨rfl,rfl⟩ := Prod.mk.inj head
      have none_ : rest.countP (fun entry => entry.2 = b) = 0 := by
        refine List.countP_eq_zero.mpr fun ⟨q,p⟩ later same => absent ?_
        have same : p = b := by simpa using same
        subst same
        have pids := only q (List.mem_cons_of_mem _ later)
        subst pids
        exact List.mem_map.mpr ⟨_,later,rfl⟩
      rw [List.countP_cons_of_pos (by simp),none_]
    · have other : ¬ p = b := by
        rintro rfl
        have pids := only q List.mem_cons_self
        subst pids
        exact absent (List.mem_map.mpr ⟨_,later,rfl⟩)
      rw [List.countP_cons_of_neg (by simpa using other)]
      exact ih distinct later fun q member => only q (List.mem_cons_of_mem _ member)

/-- A service that is taken for running has one dispatcher. -/
theorem Tracked.single (tracked : Tracked w) {s : OperatorService} (up : w.runs s = true) : Single w s := by
  obtain ⟨pid,known,_,p,member⟩ := runs_iff.mp up
  have mine := tracked.own s pid p known member
  subst mine
  refine countP_of_distinct tracked.distinct member fun q other => ?_
  obtain ⟨again,_⟩ := tracked.recorded s q other
  rw [known] at again
  exact (Option.some.inj again).symm

end

/-! ### Hooks -/

section
variable {charm : Charm} {script : Script Call Reply Exn} {completes : Prop}

/-- Constructing the handlers in a hook that completes. -/
theorem construct_tracked : ∀ (l : List OperatorService) {scene scene' : Scene Machine Call}, Tracked scene.world →
    Each charm script (Starts charm script completes) l scene →
    run (respond rules script) (l.forM (startService charm)) scene = (.ok (),scene') →
    Tracked scene'.world ∧ (∀ t, scene.world.runs t = true → scene'.world.runs t = true) ∧
      (Each charm script (Initialised charm script) l scene → ∀ s ∈ l, scene'.world.runs s = true)
  | [],scene,scene',tracked,_,ran => by
    cases ran
    exact ⟨tracked,fun _ up => up,fun _ _ member => nomatch member⟩
  | s :: rest,scene,scene',tracked,⟨starts,fine⟩,ran => by
    obtain ⟨_,s₁,first,others⟩ := run_bind_eq_ok _ ran
    have steps := startService_cases script charm s scene
    rw [first] at steps fine
    rcases steps with ⟨same,up⟩ | ⟨initialised,down,pid,⟨reply,free⟩,started⟩
    · dsimp only at same
      obtain ⟨tracked',kept,running⟩ := construct_tracked rest (by rw [same]; exact tracked) fine others
      rw [same] at kept
      refine ⟨tracked',kept,fun ⟨initialised,more⟩ t member => ?_⟩
      rw [first] at more
      rcases List.mem_cons.mp member with rfl | later
      · exact kept _ (up rfl initialised)
      · exact running more t later
    · have world : s₁.world = scene.world.started s pid := started rfl
      obtain ⟨_,fresh⟩ := starts initialised down pid reply
      have next := tracked.started down free fresh
      obtain ⟨tracked',kept,running⟩ := construct_tracked rest (by rw [world]; exact next) fine others
      rw [world] at kept
      refine ⟨tracked',fun t up => kept t (runs_started free (.inr up)),fun ⟨_,more⟩ t member => ?_⟩
      rw [first] at more
      rcases List.mem_cons.mp member with rfl | later
      · exact kept _ (runs_started free (.inl rfl))
      · exact running more t later

/-- Constructing the handlers in a hook that fails. -/
theorem construct_still (fails : ¬ completes) : ∀ (l : List OperatorService) (scene : Scene Machine Call),
    Each charm script (Starts charm script completes) l scene →
    (run (respond rules script) (l.forM (startService charm)) scene).2.world = scene.world
  | [],_,_ => rfl
  | s :: rest,scene,⟨starts,fine⟩ => by
    have same : (run (respond rules script) (startService charm s) scene).2.world = scene.world := by
      rcases startService_cases script charm s scene with ⟨same,_⟩ | ⟨initialised,down,pid,⟨reply,_⟩,_⟩
      · exact same
      · exact absurd (starts initialised down pid reply).1 fails
    show (run _ (startService charm s >>= fun _ => rest.forM (startService charm)) scene).2.world = _
    rw [run_bind]
    rcases ran : run (respond rules script) (startService charm s) scene with ⟨e | u,s₁⟩
    · rw [ran] at same
      exact same
    · rw [ran] at same fine
      exact (construct_still fails rest s₁ fine).trans same

theorem recorded_other {key : String} (value : String) (other : ∀ s : OperatorService, key ≠ s.pidKey) (w : Machine)
    (s : OperatorService) : (w.record key value).recorded s = w.recorded s := by
  rw [Machine.recorded,Machine.recorded,Machine.record,List.lookup_cons,beq_false_of_ne (other s).symm]

theorem effect_quiet {c : Call} (other : dispatches c = false) (w : Machine) (r : Except Exn (Reply c)) (happened : Bool) :
    (rules.effect w c r happened).processes = w.processes ∧
      ∀ s, (rules.effect w c r happened).recorded s = w.recorded s := by
  have keys (key value : String) (other : dispatches (.setUnitData key value) = false) (s : OperatorService) :
      key ≠ s.pidKey := by
    simp only [dispatches,Bool.or_eq_false_iff,decide_eq_false_iff_not] at other
    cases s with
    | address => exact other.1.1
    | logrotate => exact other.1.2
    | selfHealing => exact other.2
  simp only [rules]
  split
  · cases other
  · exact ⟨rfl,recorded_other _ (keys _ _ other) w⟩
  · split
    · exact ⟨rfl,recorded_other _ (keys _ _ other) w⟩
    · exact ⟨rfl,fun _ => rfl⟩
  · exact ⟨rfl,fun _ => rfl⟩

variable (script) in
/-- What follows touches no dispatcher and no record of one. -/
theorem body_keeps (body : Body) (scene : Scene Machine Call) :
    (run (respond rules script) body.run scene).2.world.processes = scene.world.processes ∧
      ∀ s, (run (respond rules script) body.run scene).2.world.recorded s = scene.world.recorded s := by
  refine run_frame (P := fun s : Scene Machine Call => s.world.processes = scene.world.processes ∧
    ∀ t, s.world.recorded t = scene.world.recorded t) (fun s c r happened other before => ?_) body.keeps scene
    ⟨rfl,fun _ => rfl⟩
  obtain ⟨processes,records⟩ := effect_quiet (by simpa using other) s.world r happened
  exact ⟨processes.trans before.1,fun t => (records t).trans (before.2 t)⟩

/-- A hook that completes leaves a dispatcher of every service whose check found the
    charm initialised. -/
theorem hook_completes {body : Body} {w : Machine} (tracked : Tracked w) (fine : Fine charm w (.hook script body))
    (completes : (outcome charm script body w).1 = .ok ()) :
    Tracked (step charm w (.hook script body)) ∧
      (Each charm script (Initialised charm script) (services charm.substrate) ⟨w,[]⟩ →
        ∀ s ∈ services charm.substrate, (step charm w (.hook script body)).runs s = true) := by
  rcases ran : outcome charm script body w with ⟨e | u,s'⟩
  · rw [ran] at completes
    cases completes
  · obtain ⟨_,s₁,first,rest⟩ := run_bind_eq_ok _ ran
    obtain ⟨tracked',_,running⟩ := construct_tracked _ tracked fine first
    obtain ⟨processes,records⟩ := body_keeps script body s₁
    rw [rest] at processes records
    have last : step charm w (.hook script body) = s'.world := by rw [step,ran]
    rw [last]
    refine ⟨tracked'.congr processes records,fun initialised s member => ?_⟩
    have up := running initialised s member
    rw [runs_iff] at up ⊢
    rw [records s,processes]
    exact up

/-- A hook that fails leaves everything as it was. -/
theorem hook_fails {body : Body} {w : Machine} (fine : Fine charm w (.hook script body))
    (fails : (outcome charm script body w).1 ≠ .ok ()) : step charm w (.hook script body) = w := by
  have built := construct_still fails (services charm.substrate) ⟨w,[]⟩ fine
  have left : (outcome charm script body w).2.world.processes = w.processes := by
    show (run (respond rules script) (constructHandlers charm >>= fun _ => body.run) ⟨w,[]⟩).2.world.processes = _
    rw [run_bind]
    rcases ran : run (respond rules script) (constructHandlers charm) ⟨w,[]⟩ with ⟨e | u,s₁⟩
    · rw [constructHandlers] at ran
      rw [ran] at built
      exact congrArg Machine.processes built
    · rw [constructHandlers] at ran
      rw [ran] at built
      exact (body_keeps script body s₁).1.trans (congrArg Machine.processes built)
  rcases ran : outcome charm script body w with ⟨e | u,s'⟩
  · rw [ran] at left
    rw [step,ran]
    obtain ⟨processes,databag⟩ := w
    rw [Machine.mk.injEq]
    exact ⟨left,rfl⟩
  · rw [ran] at fails
    exact absurd rfl fails

/-! ### Runs of the unit -/

/-- The step lemma. -/
theorem step_tracked {w : Machine} (tracked : Tracked w) : ∀ {event : Event}, Fine charm w event →
    Tracked (step charm w event)
  | .hook script body,fine => by
    by_cases completes : (outcome charm script body w).1 = .ok ()
    · exact (hook_completes tracked fine completes).1
    · rw [hook_fails fine completes]
      exact tracked
  | .exits pid,_ => tracked.filter _
  | .spawns pid,fresh => by
    rw [step]
    split
    · rename_i free
      exact tracked.spawn free fresh
    · exact tracked
  | .reboot,_ => ⟨List.nodup_nil,fun _ _ member => (nomatch member),fun _ _ _ _ member => (nomatch member)⟩

theorem allFine_append (charm : Charm) {w : Machine} {before rest : List Event}
    (fine : AllFine charm w (before ++ rest)) :
    AllFine charm w before ∧ AllFine charm (before.foldl (step charm) w) rest := by
  induction before generalizing w with
  | nil => exact ⟨trivial,fine⟩
  | cons event before ih => exact ⟨⟨fine.1,(ih fine.2).1⟩,(ih fine.2).2⟩

/-- The run lemma. -/
theorem run_tracked (charm : Charm) {w : Machine} (tracked : Tracked w) {events : List Event}
    (fine : AllFine charm w events) : Tracked (events.foldl (step charm) w) := by
  induction events generalizing w with
  | nil => exact tracked
  | cons event rest ih => exact ih (step_tracked tracked fine.1) fine.2

theorem tracked_fresh : Tracked ⟨[],[]⟩ :=
  ⟨List.nodup_nil,fun _ _ member => (nomatch member),fun _ _ _ _ member => (nomatch member)⟩

end

/-- For every unit and every sequence of hooks, reboots, ends of processes and starts of
    unrelated ones that meet the condition: a hook that completes, in which the charm is
    initialised, leaves one dispatcher of each service. -/
theorem single_of_fine (charm : Charm) (events : List Event) (script : Script Call Reply Exn) (body : Body)
    (fine : AllFine charm ⟨[],[]⟩ (events ++ [.hook script body]))
    (completes : (outcome charm script body (after charm events)).1 = .ok ())
    (initialised : Each charm script (Initialised charm script) (services charm.substrate) ⟨after charm events,[]⟩) :
    ∀ s ∈ services charm.substrate, Single (after charm (events ++ [.hook script body])) s := by
  intro s member
  obtain ⟨before,⟨last,_⟩⟩ := allFine_append charm fine
  have tracked : Tracked (after charm events) := run_tracked charm tracked_fresh before
  obtain ⟨tracked',running⟩ := hook_completes tracked last completes
  have final : after charm (events ++ [.hook script body]) = step charm (after charm events) (.hook script body) := by
    rw [after,List.foldl_append]
    rfl
  rw [final]
  exact tracked'.single (running initialised s member)

def dispatchedUnit : Charm := ⟨.vm,"mysql",0,"cluster","10.0.0.10"⟩

/-- The charm is initialised, and new processes get pids from the given one on. -/
def replies (pid : Nat) : Script Call Reply Exn where
  reply
    | .snapPresent,_ => .ok true
    | .snapServiceActive,_ => .ok true
    | .clusterLabels _,_ => .ok ["cluster"]
    | .appData _,_ => .ok (some "cluster")
    | .startDispatcher name,_ => .ok (if name = address.name then pid else if name = logrotate.name then pid+1 else pid+2)
    | _,_ => .ok default
  takesEffect _ _ := true

def quietBody : Body := ⟨pure (),trivial⟩

/-- A handler that raises. -/
def failingBody : Body := ⟨raise ⟨.otherException,"hook failed"⟩,trivial⟩

/-- A start with a pid that nothing has recorded. -/
theorem starts_fresh {charm : Charm} {script : Script Call Reply Exn} {completes : Prop} {s : OperatorService}
    {scene : Scene Machine Call} (pid : Nat)
    (reply : script.reply (.startDispatcher s.name) (scene.log.count (.startDispatcher s.name)) = .ok pid)
    (completed : completes) (fresh : ∀ t, scene.world.recorded t ≠ some pid) : Starts charm script completes s scene := by
  intro _ _ given answer
  rw [reply] at answer
  rw [← Except.ok.inj answer]
  exact ⟨completed,fun t _ => fresh t⟩

theorem single_rebooted :
    Single (after dispatchedUnit [.hook (replies 10) quietBody,.reboot,.hook (replies 20) quietBody]) .selfHealing := by
  refine single_of_fine dispatchedUnit [.hook (replies 10) quietBody,.reboot] (replies 20) quietBody
    ⟨⟨?_,?_,?_,trivial⟩,trivial,⟨?_,?_,?_,trivial⟩,trivial⟩ (by decide +kernel) ⟨?_,?_,?_,trivial⟩ .selfHealing (by decide)
  · exact starts_fresh 10 rfl (by decide +kernel) fun t => by cases t <;> decide +kernel
  · exact starts_fresh 11 rfl (by decide +kernel) fun t => by cases t <;> decide +kernel
  · exact starts_fresh 12 rfl (by decide +kernel) fun t => by cases t <;> decide +kernel
  · exact starts_fresh 20 rfl (by decide +kernel) fun t => by cases t <;> decide +kernel
  · exact starts_fresh 21 rfl (by decide +kernel) fun t => by cases t <;> decide +kernel
  · exact starts_fresh 22 rfl (by decide +kernel) fun t => by cases t <;> decide +kernel
  · unfold Initialised
    decide +kernel
  · unfold Initialised
    decide +kernel
  · unfold Initialised
    decide +kernel

/-- A hook that fails leaves dispatchers without a record, and the next one starts others. -/
theorem failed_hook_doubles : ¬ ∀ (charm : Charm) (events : List Event) (script : Script Call Reply Exn) (body : Body),
    (outcome charm script body (after charm events)).1 = .ok () →
    Each charm script (Initialised charm script) (services charm.substrate) ⟨after charm events,[]⟩ →
    ∀ s ∈ services charm.substrate, Single (after charm (events ++ [.hook script body])) s := by
  intro always
  have single := always dispatchedUnit [.hook (replies 10) failingBody] (replies 20) quietBody (by decide +kernel)
    ⟨by unfold Initialised; decide +kernel,by unfold Initialised; decide +kernel,
      by unfold Initialised; decide +kernel,trivial⟩ .selfHealing (by decide)
  revert single
  rw [Single]
  decide +kernel

end MysqlOperators.Dispatchers
