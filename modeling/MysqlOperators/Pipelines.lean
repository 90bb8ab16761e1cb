import MysqlOperators.BackupReport
import MysqlOperators.Restore

/-!
The pipelines of a backup: one process writes into another one, whose output the charm
reads. Each process is the context of a `with` statement. On machines its exit status is
looked at behind the `finally` of the generator, on Kubernetes inside of it.
-/
namespace MysqlOperators.Pipelines
open MysqlOperators.Program MysqlOperators.Program.Prog MysqlOperators.External MysqlOperators.Scripted
open MysqlOperators.Backup MysqlOperators.Restore MysqlOperators.Quiet MysqlOperators.BackupReport

/-! ### The shells -/

/-- The error of a process that has failed. -/
def failed (code : Int) : Exn := ⟨.runtimeError,"Failed to execute command: " ++ toString code⟩

section
variable {α : Type} (command : List String) (environ : List (String × String)) (stdin : Option Nat)

/-- An exception of the body leaves the generator behind `finally`. -/
def MachineShell.executeAsync (body : Nat → Hook α) : Hook α := do
  let process ← ask (.startProcess command environ stdin)
  let (a,code) ← (body process).handle
    (fun a => do
      let code ← ask (.waitProcess process)
      pure (a,code))
    (fun e => do
      let _ ← ask (.waitProcess process)
      raise e)
  if code ≠ 0 then raise (failed code) else pure a

def ContainerShell.executeAsync (body : Nat → Hook α) : Hook α := do
  let process ← ask (.startProcess command environ stdin)
  (body process).finallyDo do
    let code ← ask (.waitProcess process)
    if code ≠ 0 then raise (failed code) else pure ()

theorem executeAsync_vm (body : Nat → Hook α) :
    Backup.executeAsync .vm command environ stdin body = MachineShell.executeAsync command environ stdin body := by
  refine bind_congr fun process => ?_
  rw [bind_eq,handle_handle]
  refine congrArg₂ (body process).handle (funext fun a => ?_) (funext fun e => ?_)
  · rw [← bind_eq,bind_assoc]
    rfl
  · rw [← bind_eq,bind_assoc]
    rfl

theorem executeAsync_k8s (body : Nat → Hook α) :
    Backup.executeAsync .k8s command environ stdin body = ContainerShell.executeAsync command environ stdin body := by
  refine bind_congr fun process => ?_
  rw [finallyDo]
  refine congrArg₂ (body process).handle (funext fun a => ?_) (funext fun e => ?_)
  · rw [bind_eq,bind_eq,handle_handle]
    refine congrArg₂ (ask (.waitProcess process)).handle (funext fun code => ?_) rfl
    by_cases zero : code = 0 <;> simp [zero,failed,pure_eq]
  · rw [bind_eq,bind_eq,handle_handle]
    refine congrArg₂ (ask (.waitProcess process)).handle (funext fun code => ?_) rfl
    by_cases zero : code = 0 <;> simp [zero,failed,pure_eq]

/-- How a `with` statement ends, given the exit status and how its body ends. -/
def closed (s : Substrate) (code : Int) : Except Exn α → Except Exn α
  | .ok a => if code ≠ 0 then .error (failed code) else .ok a
  | .error e =>
    match s with
    | .vm => .error e
    | .k8s => if code ≠ 0 then .error (failed code) else .error e

theorem closed_eq_ok_iff {s : Substrate} {code : Int} {r : Except Exn α} {a : α} :
    closed s code r = .ok a ↔ r = .ok a ∧ code = 0 := by
  cases r with
  | ok b => by_cases zero : code = 0 <;> simp [closed,zero]
  | error e => cases s <;> by_cases zero : code = 0 <;> simp [closed,zero]

/-- It raises a RuntimeError if its body does or the process has failed. -/
theorem closed_runtime {s : Substrate} {code : Int} {r : Except Exn α} {e : Exn}
    (inner : ∀ e, r = .error e → e.isRuntimeError = true) (raises : closed s code r = .error e) :
    e.isRuntimeError = true := by
  have fails : (failed code).isRuntimeError = true := rfl
  cases r with
  | ok a =>
    by_cases zero : code = 0
    · simp [closed,zero] at raises
    · simp only [closed,zero,ne_eq,not_false_eq_true,if_true,Except.error.injEq] at raises
      rw [← raises]
      exact fails
  | error e' =>
    have runtime := inner e' rfl
    cases s with
    | vm =>
      cases raises
      exact runtime
    | k8s =>
      by_cases zero : code = 0
      · simp only [closed,zero,ne_eq,not_true_eq_false,if_false,Except.error.injEq] at raises
        rw [← raises]
        exact runtime
      · simp only [closed,zero,ne_eq,not_false_eq_true,if_true,Except.error.injEq] at raises
        rw [← raises]
        exact fails

theorem run_executeAsync {W : Type} (respond : W → (c : Call) → Except Exn (Reply c) × W) (s : Substrate)
    (body : Nat → Hook α) (w : W) : run respond (Backup.executeAsync s command environ stdin body) w =
      match respond w (.startProcess command environ stdin) with
      | (.error e,w₁) => (.error e,w₁)
      | (.ok process,w₁) =>
        let (r,w₂) := run respond (body process) w₁
        match respond w₂ (.waitProcess process) with
        | (.error e,w₃) => (.error e,w₃)
        | (.ok code,w₃) => (closed s code r,w₃) := by
  rw [Backup.executeAsync,run_bind,run_perform]
  rcases respond w (.startProcess command environ stdin) with ⟨e | process,w₁⟩
  · rfl
  simp only [run_handle]
  rcases run respond (body process) w₁ with ⟨e | a,w₂⟩
  · simp only [run_bind,run_perform]
    rcases respond w₂ (.waitProcess process) with ⟨e' | code,w₃⟩
    · rfl
    · cases s
      · rfl
      · by_cases zero : code = 0 <;> simp [closed,zero,failed]
  · simp only [run_bind,run_perform]
    rcases respond w₂ (.waitProcess process) with ⟨e | code,w₃⟩
    · rfl
    · by_cases zero : code = 0 <;> simp [closed,zero,failed]

end

/-! ### Two processes -/

/-- How the reading of the output ends. -/
inductive Reading where
  | text (output : String)
  | raises (error : {e : Exn // e.isRuntimeError = true})

def Reading.result : Reading → Except Exn (Option String)
  | text output => .ok (some output)
  | raises error => .error error.val

/-- The exit statuses of the process that is started first and of the one that reads its
    output, and how the charm reads the output of the latter. -/
structure Pipeline where
  first : Int
  second : Int
  reading : Reading

/-- How many processes have been started, and those that have been waited for. -/
structure World where
  started : Nat
  waited : List Nat

namespace Pipeline
variable (x : Pipeline)

def exit (process : Nat) : Int := if process = 0 then x.first else x.second

/-- Processes are numbered as they are started. All that is not about a process ends as
    the script has it. -/
def answer (w : World) : (c : Call) → Except Exn (Reply c) → Except Exn (Reply c)
  | .startProcess _ _ _,.ok _ => .ok w.started
  | .waitProcess process,_ => .ok (x.exit process)
  | .readOutput _,_ => x.reading.result
  | .closeOutput _,_ => .ok ()
  | _,r => r

def effect (w : World) (c : Call) (r : Except Exn (Reply c)) (_ : Bool) : World :=
  match c,r with
  | .startProcess _ _ _,.ok _ => { w with started := w.started + 1 }
  | .waitProcess process,_ => { w with waited := w.waited ++ [process] }
  | _,_ => w

def rules : Rules World Call Reply Exn := ⟨x.answer,effect⟩

/-- Both processes exit with status 0, and the output is read. -/
def Succeeds (output : String) : Prop := x.reading = .text output ∧ x.first = 0 ∧ x.second = 0

/-- The result of an operation and the world it leaves. -/
structure Right (r : Except Exn (String × String)) (w : World) : Prop where
  returns : ∀ output, (∃ dir, r = .ok (output,dir)) ↔ x.Succeeds output
  raises : (¬ ∃ output, x.Succeeds output) → ∃ e, r = .error e ∧ e.isRuntimeError = true
  waits : ∀ process < 2, process ∈ w.waited

end Pipeline

/-- The operations that run a pipeline. -/
inductive Operation where
  | create (backupPath username password : String)
  | download (backupId : String)

def Operation.program (m : BackupManager) : Operation → Hook (String × String)
  | create backupPath username password => createBackup m backupPath username password
  | download backupId => downloadBackup m backupId

/-- How an operation ends, and the processes then. -/
def Pipeline.ends (x : Pipeline) (m : BackupManager) (op : Operation) (script : Script Call Reply Exn) :
    Except Exn (String × String) × World :=
  let (r,scene) := play x.rules script (op.program m) ⟨0,[]⟩
  (r,scene.world)

section
variable (x : Pipeline) (script : Script Call Reply Exn)

/-- The storage is configured, and no call fails but those that wait for a process or read
    its output, which end as the pipeline has it. -/
def Steady (storage : Option BackupStorage) (script : Script Call Reply Exn) : Prop :=
  storage ≠ none ∧ ∀ c n, ∃ a, script.reply c n = .ok a

/-- The statements under `with`. -/
def pipe (s : Substrate) (first : List String) (environ : List (String × String)) (second : List String)
    (environ' : List (String × String)) : Hook (Option String) :=
  executeAsync s first environ none fun upstream =>
    executeAsync s second environ' (some upstream) fun downstream => do
      let output ← ask (.readOutput downstream)
      ask (.closeOutput downstream)
      ask (.closeOutput upstream)
      pure output

/-- What both operations do with the output. -/
def decoded (dir : String) : Option String → Hook (String × String)
  | some text => pure (text,dir)
  | none => raise ⟨.valueError,"'utf-8' codec can't decode the output"⟩

theorem run_reading (upstream downstream : Nat) (w : World) (log : List Call) :
    ∃ log', run (respond x.rules script) (do
      let output ← ask (.readOutput downstream)
      ask (.closeOutput downstream)
      ask (.closeOutput upstream)
      pure output : Hook (Option String)) ⟨w,log⟩ = (x.reading.result,⟨w,log'⟩) := by
  rcases read : x.reading with output | error
  · refine ⟨log ++ [.readOutput downstream] ++ [.closeOutput downstream] ++ [.closeOutput upstream],?_⟩
    simp [run_bind,respond,Pipeline.rules,Pipeline.answer,Pipeline.effect,Reading.result,read,-bind_pure_comp]
  · refine ⟨log ++ [.readOutput downstream],?_⟩
    simp [run_bind,respond,Pipeline.rules,Pipeline.answer,Pipeline.effect,Reading.result,read]

theorem respond_startProcess (command : List String) (environ : List (String × String)) (stdin : Option Nat) (w : World)
    (log : List Call) :
    (∃ e, script.reply (.startProcess command environ stdin) (log.count (.startProcess command environ stdin)) = .error e ∧
      respond x.rules script ⟨w,log⟩ (.startProcess command environ stdin) =
        (.error e,⟨w,log ++ [.startProcess command environ stdin]⟩)) ∨
      respond x.rules script ⟨w,log⟩ (.startProcess command environ stdin) =
        (.ok w.started,⟨{ w with started := w.started + 1 },log ++ [.startProcess command environ stdin]⟩) := by
  rcases answered : script.reply (.startProcess command environ stdin)
    (log.count (.startProcess command environ stdin)) with e | process
  · exact .inl ⟨e,answered,by simp [respond,Pipeline.rules,Pipeline.answer,Pipeline.effect,answered]⟩
  · exact .inr (by simp [respond,Pipeline.rules,Pipeline.answer,Pipeline.effect,answered])

theorem respond_waitProcess (process : Nat) (w : World) (log : List Call) :
    respond x.rules script ⟨w,log⟩ (.waitProcess process) =
      (.ok (x.exit process),⟨{ w with waited := w.waited ++ [process] },log ++ [.waitProcess process]⟩) := rfl

theorem not_steady {storage : Option BackupStorage} {script : Script Call Reply Exn} {c : Call} {n : Nat} {e : Exn}
    (answered : script.reply c n = .error e) : ¬ Steady storage script := by
  rintro ⟨-,answers⟩
  obtain ⟨a,same⟩ := answers c n
  rw [answered] at same
  cases same

/-- Either a process cannot be started, or both have been waited for and the exit statuses
    decide along with the reading. -/
theorem run_pipe (s : Substrate) (first : List String) (environ : List (String × String)) (second : List String)
    (environ' : List (String × String)) (log : List Call) :
    ∃ r w log', run (respond x.rules script) (pipe s first environ second environ') ⟨⟨0,[]⟩,log⟩ = (r,⟨w,log'⟩) ∧
      (w.started ≠ 2 ∧ (∃ e, r = .error e) ∧ (∀ storage, ¬ Steady storage script) ∨
        w = ⟨2,[1,0]⟩ ∧ r = closed s x.first (closed s x.second x.reading.result)) := by
  rw [pipe,run_executeAsync]
  obtain ⟨e,answered,refused⟩ | begun := respond_startProcess x script first environ none ⟨0,[]⟩ log
  · rw [refused]
    exact ⟨_,_,_,rfl,.inl ⟨by simp,⟨e,rfl⟩,fun _ => not_steady answered⟩⟩
  rw [begun]
  simp only [run_executeAsync]
  obtain ⟨e,answered,refused⟩ | begun' := respond_startProcess x script second environ' (some 0) ⟨1,[]⟩
    (log ++ [.startProcess first environ none])
  · simp only [Nat.zero_add,refused,respond_waitProcess]
    refine ⟨_,_,_,rfl,.inl ⟨by simp,?_,fun _ => not_steady answered⟩⟩
    rcases ended : closed s (x.exit 0) (.error e : Except Exn (Option String)) with e' | output
    · exact ⟨e',rfl⟩
    · cases (closed_eq_ok_iff.mp ended).1
  · obtain ⟨log',read⟩ := run_reading x script 0 1 ⟨2,[]⟩
      (log ++ [.startProcess first environ none] ++ [.startProcess second environ' (some 0)])
    simp only [Nat.zero_add,begun',Nat.reduceAdd,read,respond_waitProcess]
    exact ⟨_,_,_,rfl,.inr ⟨rfl,rfl⟩⟩

theorem succeeds_iff (s : Substrate) (output : String) :
    closed s x.first (closed s x.second x.reading.result) = .ok (some output) ↔ x.Succeeds output := by
  rw [closed_eq_ok_iff,closed_eq_ok_iff,Pipeline.Succeeds]
  cases x.reading with
  | text output' =>
    simp only [Reading.result,Except.ok.injEq,Option.some.injEq,Reading.text.injEq]
    exact ⟨fun ⟨⟨same,second⟩,first⟩ => ⟨same,first,second⟩,fun ⟨same,first,second⟩ => ⟨⟨same,second⟩,first⟩⟩
  | raises error => simp [Reading.result]

theorem closed_reading (s : Substrate) :
    (∃ output, closed s x.first (closed s x.second x.reading.result) = .ok (some output)) ∨
      ∃ e, closed s x.first (closed s x.second x.reading.result) = .error e ∧ e.isRuntimeError = true := by
  have read : ∀ e, x.reading.result = .error e → e.isRuntimeError = true := by
    intro e raised
    cases known : x.reading with
    | text output => rw [known] at raised; cases raised
    | raises error =>
      rw [known] at raised
      cases raised
      exact error.property
  rcases ended : closed s x.first (closed s x.second x.reading.result) with e | output
  · exact .inr ⟨e,rfl,closed_runtime (fun _ => closed_runtime read) ended⟩
  · have known := (closed_eq_ok_iff.mp (closed_eq_ok_iff.mp ended).1).1
    cases read' : x.reading with
    | text output' =>
      rw [read'] at known
      cases known
      exact .inl ⟨output',rfl⟩
    | raises error => rw [read'] at known; cases known

/-- Nothing has been started. -/
def Untouched (scene : Scene World Call) : Prop := scene.world = ⟨0,[]⟩

/-- The operation starts both processes where nothing else fails, and before it returns,
    and is right if it has started them. -/
structure Judged (storage : Option BackupStorage) (r : Except Exn (String × String)) (scene : Scene World Call) :
    Prop where
  steady : Steady storage script → scene.world.started = 2
  returned : (∃ a, r = .ok a) → scene.world.started = 2
  right : scene.world.started = 2 → x.Right r scene.world

theorem leads_pipe (s : Substrate) (first : List String) (environ : List (String × String)) (second : List String)
    (environ' : List (String × String)) (storage : Option BackupStorage) (dir : String) :
    Leads x.rules script Untouched (pipe s first environ second environ' >>= decoded dir) (Judged x script storage) := by
  rintro ⟨w,log⟩ untouched
  obtain rfl : w = ⟨0,[]⟩ := untouched
  obtain ⟨r,w,log',ran,⟨few,⟨e,rfl⟩,unsteady⟩ | ⟨rfl,verdict⟩⟩ := run_pipe x script s first environ second environ' log
  · rw [run_bind,ran]
    exact ⟨fun steady => absurd steady (unsteady _),nofun,fun both => absurd both few⟩
  have waits : ∀ process < 2, process ∈ [1,0] := by decide
  obtain ⟨output,returned⟩ | ⟨e,raised,runtime⟩ := closed_reading x s
  · rw [run_bind,ran,verdict,returned]
    have succeeds := (succeeds_iff x s output).mp returned
    refine ⟨fun _ => rfl,fun _ => rfl,fun _ => ⟨fun output' => ⟨?_,fun succeeds' => ?_⟩,
      fun fails => absurd ⟨output,succeeds⟩ fails,waits⟩⟩
    · rintro ⟨dir',same⟩
      cases same
      exact succeeds
    · have same := returned.symm.trans ((succeeds_iff x s output').mpr succeeds')
      cases same
      exact ⟨dir,rfl⟩
  · rw [run_bind,ran,verdict,raised]
    refine ⟨fun _ => rfl,fun _ => rfl,fun _ => ⟨fun output => ⟨nofun,fun succeeds => ?_⟩,
      fun _ => ⟨e,rfl,runtime⟩,waits⟩⟩
    have same := raised.symm.trans ((succeeds_iff x s output).mpr succeeds)
    cases same

/-- What comes before the processes starts none, and raises only where something fails. -/
def Prepares {α : Type} (storage : Option BackupStorage) (p : Hook α) : Prop :=
  Leads x.rules script Untouched p fun r s => Untouched s ∧ ∀ e, r = .error e → ¬ Steady storage script

section
variable {x script} {storage : Option BackupStorage} {α β : Type}

theorem prepares_ret (a : α) : Prepares x script storage (pure a) := leads_ret fun _ before => ⟨before,nofun⟩

theorem prepares_bind {p : Hook α} {f : α → Hook β} (first : Prepares x script storage p)
    (rest : ∀ a, Prepares x script storage (f a)) : Prepares x script storage (p >>= f) :=
  leads_bind first (fun a s before => rest a s before.1) fun e s before =>
    ⟨before.1,fun _ same => by cases same; exact before.2 e rfl⟩

/-- A call that is about no process. -/
theorem prepares_ask {c : Call} (answers : ∀ w r, x.answer w c r = r)
    (same : ∀ w r happened, Pipeline.effect w c r happened = w) : Prepares x script storage (ask c) := by
  refine leads_perform fun s n r happened before answered => ⟨(same s.world r happened).trans before,?_⟩
  rintro e rfl
  exact not_steady (n := n) (answered.trans (answers s.world _)).symm

theorem prepares_getStorage (s : Substrate) : Prepares x script storage (getStorage ⟨s,storage⟩) := by
  unfold getStorage
  cases storage with
  | none => exact leads_raise fun _ before => ⟨before,fun _ _ steady => steady.1 rfl⟩
  | some _ => exact prepares_ret _

theorem prepares_createTemporaryDir (s : Substrate) (dirPrefix : String) :
    Prepares x script storage (createTemporaryDir ⟨s,storage⟩ dirPrefix) :=
  prepares_bind (prepares_ask (fun _ _ => rfl) fun _ _ _ => rfl) fun _ =>
    prepares_bind (prepares_ask (fun _ _ => rfl) fun _ _ _ => rfl) fun _ => prepares_ret _

theorem prepares_createTemporaryCa (s : Substrate) : Prepares x script storage (createTemporaryCa ⟨s,storage⟩) := by
  refine prepares_bind (prepares_getStorage s) fun target => ?_
  split
  · exact prepares_ret _
  · exact prepares_bind (prepares_createTemporaryDir _ _) fun _ =>
      prepares_bind (prepares_ask (fun _ _ => rfl) fun _ _ _ => rfl) fun _ => prepares_ret _

theorem leads_prepared {p : Hook α} {f : α → Hook (String × String)} (first : Prepares x script storage p)
    (rest : ∀ a, Leads x.rules script Untouched (f a) (Judged x script storage)) :
    Leads x.rules script Untouched (p >>= f) (Judged x script storage) := by
  refine leads_bind first (fun a s before => rest a s before.1) fun e s before => ?_
  obtain ⟨untouched,unsteady⟩ := before
  refine ⟨fun steady => absurd steady (unsteady e rfl),nofun,fun both => ?_⟩
  rw [show s.world.started = 0 from congrArg World.started untouched] at both
  cases both

end

theorem leads_program (s : Substrate) (storage : Option BackupStorage) (op : Operation) :
    Leads x.rules script Untouched (op.program ⟨s,storage⟩) (Judged x script storage) := by
  cases op with
  | create backupPath username password =>
    refine leads_prepared (prepares_ask (fun _ _ => rfl) fun _ _ _ => rfl) fun cores => ?_
    refine leads_prepared (prepares_createTemporaryCa s) fun caChainPath => ?_
    refine leads_prepared (prepares_createTemporaryDir s _) fun dir => ?_
    exact leads_prepared (prepares_getStorage s) fun target => leads_pipe x script s _ _ _ _ storage dir
  | download backupId =>
    refine leads_prepared (prepares_ask (fun _ _ => rfl) fun _ _ _ => rfl) fun cores => ?_
    refine leads_prepared (prepares_createTemporaryCa s) fun caChainPath => ?_
    refine leads_prepared (prepares_createTemporaryDir s _) fun dir => ?_
    exact leads_prepared (prepares_getStorage s) fun target => leads_pipe x script s _ _ _ _ storage dir

/-- Where nothing else fails both processes are started, and so they are by an operation
    that returns. Once both are, the operation returns what was read if both exit with
    status 0, and raises a RuntimeError otherwise, having waited for both; so the two
    shells agree. -/
theorem shells_agree (op : Operation) (storage : Option BackupStorage)
    (script : Substrate → Script Call Reply Exn) :
    (∀ s, (Steady storage (script s) → (x.ends ⟨s,storage⟩ op (script s)).2.started = 2) ∧
      ((∃ a, (x.ends ⟨s,storage⟩ op (script s)).1 = .ok a) → (x.ends ⟨s,storage⟩ op (script s)).2.started = 2) ∧
      ((x.ends ⟨s,storage⟩ op (script s)).2.started = 2 →
        x.Right (x.ends ⟨s,storage⟩ op (script s)).1 (x.ends ⟨s,storage⟩ op (script s)).2)) ∧
    ((∀ s, (x.ends ⟨s,storage⟩ op (script s)).2.started = 2) → ∀ output,
      (∃ dir, (x.ends ⟨.vm,storage⟩ op (script .vm)).1 = .ok (output,dir)) ↔
        ∃ dir, (x.ends ⟨.k8s,storage⟩ op (script .k8s)).1 = .ok (output,dir)) := by
  have judged (s : Substrate) := leads_program x (script s) s storage op ⟨⟨0,[]⟩,[]⟩ rfl
  refine ⟨fun s => ⟨(judged s).steady,(judged s).returned,(judged s).right⟩,fun both output => ?_⟩
  exact (((judged .vm).right (both .vm)).returns output).trans (((judged .k8s).right (both .k8s)).returns output).symm

end

/-- A pipeline of two processes that do their work. -/
def whole : Pipeline := ⟨0,0,.text "completed OK!"⟩

/-- A first process that breaks off, and a second one that takes what has come for all. -/
def cutOff : Pipeline := ⟨1,0,.text ""⟩

def target : BackupStorage := ⟨"bucket","backups",none,[],[]⟩

/-- Every other call succeeds. -/
def calm : Script Call Reply Exn := ⟨fun _ _ => .ok default,fun _ _ => false⟩

def creation : Operation := .create "bucket/backups/id" "backups" "secret"

/-- A backup is created under both shells, and one that is cut off is not downloaded. -/
theorem shells_agree_cutOff :
    (∃ dir, (whole.ends ⟨.vm,some target⟩ creation calm).1 = .ok ("completed OK!",dir)) ∧
      (∃ dir, (whole.ends ⟨.k8s,some target⟩ creation calm).1 = .ok ("completed OK!",dir)) ∧
      (∃ e, (cutOff.ends ⟨.vm,some target⟩ (.download "id") calm).1 = .error e ∧ e.isRuntimeError = true) ∧
      ∃ e, (cutOff.ends ⟨.k8s,some target⟩ (.download "id") calm).1 = .error e ∧ e.isRuntimeError = true := by
  have steady : Steady (some target) calm := ⟨nofun,fun _ _ => ⟨_,rfl⟩⟩
  have creates := (shells_agree whole creation (some target) fun _ => calm).1
  have downloads := (shells_agree cutOff (.download "id") (some target) fun _ => calm).1
  have succeeds : whole.Succeeds "completed OK!" := ⟨rfl,rfl,rfl⟩
  have fails : ¬ ∃ output, cutOff.Succeeds output := by
    rintro ⟨output,read,exits,_⟩
    cases exits
  have made (s : Substrate) := ((creates s).2.2 ((creates s).1 steady)).returns "completed OK!"
  have cut (s : Substrate) := ((downloads s).2.2 ((downloads s).1 steady)).raises fails
  exact ⟨(made .vm).mpr succeeds,(made .k8s).mpr succeeds,cut .vm,cut .k8s⟩

end MysqlOperators.Pipelines
