import MysqlOperators.Backup
import MysqlOperators.Quiet
import MysqlOperators.Scripted

/-!
What the create-backup action reports. The world is arbitrary: any rules, any
script. A backup was made when the password was fetched, `create_backup` returned,
the log was uploaded and the temporary files were removed; the action reports it
by setting its results.
-/
namespace MysqlOperators.BackupReport
open MysqlOperators.Program MysqlOperators.Program.Prog MysqlOperators.External MysqlOperators.Clients
open MysqlOperators.Workload MysqlOperators.Helpers MysqlOperators.Quiet MysqlOperators.Scripted MysqlOperators.Backup
set_option linter.unusedSimpArgs false

/-! ### The calls of an action -/

/-- The calls of `upload_file`. -/
def uploads : Call → Bool
  | .createTemporary _ | .unlink _ | .buildBackupClient _ | .uploadFile _ _ _ => true
  | _ => false

/-- The calls of `create_backup`. -/
def makes : Call → Bool
  | .cores | .randomSuffix | .makeDirectory _ | .writeText _ _ | .startProcess _ _ _ | .waitProcess _
  | .readOutput _ | .closeOutput _ => true
  | _ => false

/-- The calls that isolate an instance, or make it accessible again. -/
def isolates : Call → Bool
  | .updateInstance _ _ _ | .setVariable _ _ _ => true
  | _ => false

/-- The calls around a backup, before the action reports. -/
def attends (c : Call) : Bool :=
  quiet c || isolates c ||
    match c with
    | .fail _ | .getSecret _ | .peekContent _ | .executeSync _ => true
    | _ => false

/-- The calls of an action before it reports. -/
def works (c : Call) : Bool := attends c || uploads c || makes c

def Outside (kind : Call → Bool) (c : Call) : Prop := kind c = false

theorem inside_ask {kind : Call → Bool} {c : Call} (h : kind c = true) : Avoids (Outside kind) (ask c) :=
  avoids_ask (by simp [Outside,h])

/-- A program whose calls are of one kind makes calls of a wider kind only. -/
theorem inside_mono {kind wider : Call → Bool} (more : ∀ c, kind c = true → wider c = true) {α : Type} {p : Hook α}
    (inside : Avoids (Outside kind) p) : Avoids (Outside wider) p :=
  avoids_mono (fun c other => by
    by_contra used
    simp only [Outside,Bool.not_eq_false] at used other
    rw [more c used] at other
    cases other) inside

theorem attends_of_quiet {α : Type} {p : Hook α} (silent : Avoids Loud p) : Avoids (Outside attends) p :=
  inside_mono (fun c (used : quiet c = true) => by simp [attends,used]) silent

theorem works_of_attends {α : Type} {p : Hook α} (inside : Avoids (Outside attends) p) : Avoids (Outside works) p :=
  inside_mono (fun c used => by simp [works,used]) inside

section
variable {α : Type} {bad : Call → Prop}

theorem avoids_temporaryFile {contents : Option String} {body : Option String → Hook α}
    (create : ∀ text, ¬ bad (.createTemporary text)) (remove : ∀ name, ¬ bad (.unlink name))
    (inside : ∀ name, Avoids bad (body name)) : Avoids bad (temporaryFile contents body) := by
  unfold temporaryFile
  split
  · exact inside none
  · exact avoids_bind (avoids_ask (create _)) fun name => avoids_finallyDo (inside _) (avoids_ask (remove name))

theorem avoids_getStorage (m : BackupManager) : Avoids bad (getStorage m) := by
  unfold getStorage
  split <;> trivial

theorem avoids_executeAsync {s : Substrate} {command : List String} {environ : List (String × String)}
    {stdin : Option Nat} {body : Nat → Hook α} (start : ¬ bad (.startProcess command environ stdin))
    (wait : ∀ process, ¬ bad (.waitProcess process)) (inside : ∀ process, Avoids bad (body process)) :
    Avoids bad (executeAsync s command environ stdin body) := by
  refine avoids_bind (avoids_ask start) fun process => avoids_handle (inside process) (fun a => ?_) (fun e => ?_)
  · exact avoids_bind (avoids_ask (wait process)) fun code => avoids_ite _ (fun _ => trivial) (fun _ => trivial)
  · refine avoids_bind (avoids_ask (wait process)) fun code => ?_
    cases s
    · trivial
    · exact avoids_ite _ (fun _ => trivial) (fun _ => trivial)

end

theorem inside_uploadFile (m : BackupManager) (contents path : String) :
    Avoids (Outside uploads) (uploadFile m contents path) := by
  refine avoids_bind (avoids_getStorage m) fun storage => ?_
  refine avoids_temporaryFile (by simp [Outside,uploads]) (by simp [Outside,uploads]) fun caChainFile => ?_
  refine avoids_temporaryFile (by simp [Outside,uploads]) (by simp [Outside,uploads]) fun contentsFile => ?_
  exact avoids_bind (inside_ask rfl) fun _ => inside_ask rfl

theorem inside_createTemporaryDir (m : BackupManager) (dirPrefix : String) :
    Avoids (Outside makes) (createTemporaryDir m dirPrefix) :=
  avoids_bind (inside_ask rfl) fun _ => avoids_bind (inside_ask rfl) (fun _ => trivial)

theorem inside_createTemporaryCa (m : BackupManager) : Avoids (Outside makes) (createTemporaryCa m) := by
  refine avoids_bind (avoids_getStorage m) fun storage => ?_
  split
  · trivial
  · exact avoids_bind (inside_createTemporaryDir _ _) fun _ => avoids_bind (inside_ask rfl) (fun _ => trivial)

theorem inside_createBackup (m : BackupManager) (backupPath username password : String) :
    Avoids (Outside makes) (createBackup m backupPath username password) := by
  refine avoids_bind (inside_ask rfl) fun cores => avoids_bind (inside_createTemporaryCa m) fun caChainPath => ?_
  refine avoids_bind (inside_createTemporaryDir m _) fun dir => avoids_bind (avoids_getStorage m) fun storage => ?_
  refine avoids_bind (avoids_executeAsync (by simp [Outside,makes]) (by simp [Outside,makes]) fun backup => ?_)
    fun output => ?_
  · refine avoids_executeAsync (by simp [Outside,makes]) (by simp [Outside,makes]) fun upload => ?_
    exact avoids_bind (inside_ask rfl) fun _ => avoids_bind (inside_ask rfl) fun _ =>
      avoids_bind (inside_ask rfl) (fun _ => trivial)
  · split <;> trivial

theorem attends_getValue (label key : String) : Avoids (Outside attends) (SecretStore.getValue label key) := by
  refine avoids_bind (avoids_tryExcept (inside_ask rfl) (fun _ => trivial)) fun _ =>
    avoids_bind (inside_ask rfl) fun content => ?_
  split <;> trivial

theorem works_uploadFile (m : BackupManager) (contents path : String) :
    Avoids (Outside works) (uploadFile m contents path) :=
  inside_mono (fun c used => by simp [works,used]) (inside_uploadFile m contents path)

theorem works_createBackup (m : BackupManager) (backupPath username password : String) :
    Avoids (Outside works) (createBackup m backupPath username password) :=
  inside_mono (fun c used => by simp [works,used]) (inside_createBackup m backupPath username password)

theorem works_makeBackup (m : BackupManager) (backupPath password : String) :
    Avoids (Outside works) (makeBackup m backupPath password) :=
  avoids_bind (works_of_attends (attends_of_quiet (quiet_setUnitStatus _))) fun _ =>
    avoids_bind (works_createBackup _ _ _ _) (fun _ => trivial)

theorem works_storeLog (m : BackupManager) (backupPath output : String) :
    Avoids (Outside works) (storeLog m backupPath output) :=
  avoids_bind (works_uploadFile _ _ _) fun _ => avoids_bind (inside_ask rfl) (fun _ => trivial)

theorem attends_failAndReturn (message : String) : Avoids (Outside attends) (failAndReturn message) :=
  avoids_bind (inside_ask rfl) (fun _ => trivial)

theorem works_backupBody (charm : Charm) (m : BackupManager) (backupPath : String) :
    Avoids (Outside works) (backupBody charm m backupPath) :=
  avoids_bind (works_of_attends (attends_getValue _ _)) fun _ =>
    avoids_tryElse (works_makeBackup _ _ _) (fun _ => works_of_attends (attends_failAndReturn _)) fun _ =>
      avoids_tryElse (works_storeLog _ _ _) (fun _ => works_of_attends (attends_failAndReturn _)) (fun _ => trivial)

theorem attends_enterIsolation : Avoids (Outside attends) enterIsolation := by
  refine avoids_bind (attends_of_quiet (quiet_fetchInstances _)) fun instances => ?_
  refine avoids_ite _ (fun _ => trivial) fun _ => ?_
  exact avoids_tryElse (avoids_bind (inside_ask rfl) fun _ => inside_ask rfl) (fun _ => trivial) (fun _ => trivial)

theorem attends_leaveIsolation : Avoids (Outside attends) leaveIsolation :=
  avoids_tryExcept (avoids_bind (inside_ask rfl) fun _ => inside_ask rfl) (fun _ => trivial)

theorem quiet_checkCluster : Avoids Loud checkCluster := by
  refine avoids_bind (quiet_fetchInstances _) fun instances => avoids_bind quiet_fetchState fun state => ?_
  refine avoids_ite _ (fun _ => trivial) fun _ => ?_
  split <;> trivial

theorem quiet_checkInstance : Avoids Loud checkInstance := by
  refine avoids_bind (quiet_countClusterMembers _) fun members => avoids_bind (quiet_ask rfl) fun role => ?_
  refine avoids_ite _ (fun _ => trivial) fun _ => avoids_bind (quiet_ask rfl) fun state => ?_
  exact avoids_ite _ (fun _ => trivial) (fun _ => trivial)

theorem attends_runChecks (force : Bool) : Avoids (Outside attends) (runChecks force) := by
  refine avoids_tryElse (attends_of_quiet (avoids_bind quiet_checkCluster fun _ => quiet_checkInstance)) (fun e => ?_)
    (fun _ => trivial)
  exact avoids_ite _ (fun _ => trivial) (fun _ => avoids_bind (inside_ask rfl) (fun _ => trivial))

theorem works_uploadMetadata (charm : Charm) (m : BackupManager) (requestTime : String) :
    Avoids (Outside works) (uploadMetadata charm m requestTime) := by
  refine avoids_bind (avoids_tryExcept ?_ fun e => avoids_bind (inside_ask rfl) (fun _ => trivial)) fun built => ?_
  · refine avoids_bind (avoids_getStorage m) fun storage => avoids_bind ?_ (fun _ => trivial)
    exact avoids_bind (inside_ask rfl) fun _ => avoids_bind (inside_ask rfl) (fun _ => trivial)
  · split
    · trivial
    · exact avoids_tryElse (works_uploadFile _ _ _) (fun e => avoids_bind (inside_ask rfl) (fun _ => trivial))
        (fun _ => trivial)

theorem works_prepare (charm : Charm) (m : BackupManager) (force : Bool) :
    Avoids (Outside works) (prepare charm m force) := by
  have skips : ∀ reason, Avoids (Outside works) (do skip reason; pure none : Hook (Option (String × String))) :=
    fun reason => avoids_bind (inside_ask rfl) (fun _ => trivial)
  refine avoids_bind (inside_ask rfl) fun related => avoids_ite _ (fun _ => ?_) (fun _ => skips _)
  refine avoids_bind (works_of_attends (attends_of_quiet (quiet_initialized charm))) fun ready => ?_
  refine avoids_ite _ (fun _ => ?_) (fun _ => skips _)
  refine avoids_bind (inside_ask rfl) fun refreshing => avoids_ite _ (fun _ => skips _) fun _ => ?_
  refine avoids_bind (works_of_attends (attends_runChecks force)) fun passed => ?_
  refine avoids_ite _ (fun _ => ?_) (fun _ => trivial)
  exact avoids_bind (inside_ask rfl) fun time => avoids_bind (works_uploadMetadata _ _ _) (fun _ => trivial)

/-! ### The report -/

section
variable {W : Type} (rules : Rules W Call Reply Exn) (script : Script Call Reply Exn) (charm : Charm)
variable (m : BackupManager)

abbrev exec {α : Type} (p : Hook α) (s : Scene W Call) : Except Exn α × Scene W Call := run (respond rules script) p s

/-- From here on, fetching the password, making the backup, uploading its log and
    removing its files return. -/
def Made (backupPath : String) (s : Scene W Call) : Prop :=
  ∃ password s₁ output s₂ s₃,
    exec rules script (SecretStore.getValue (secretLabel charm) passwordKeyBackups) s = (.ok password,s₁) ∧
    exec rules script (makeBackup m backupPath password) s₁ = (.ok output,s₂) ∧
    exec rules script (storeLog m backupPath output) s₂ = (.ok (),s₃)

/-- `event.fail` raises an `Exception` itself. -/
def FailRaises (message : String) (s : Scene W Call) : Prop :=
  ∃ e s', exec rules script (failAndReturn message) s = (.error e,s') ∧ e.isException = true

/-- One of the steps raises an `Exception` that the handler does not catch. -/
def Escapes (backupPath : String) (s : Scene W Call) : Prop :=
  match exec rules script (SecretStore.getValue (secretLabel charm) passwordKeyBackups) s with
  | (.error e,_) => e.isException = true
  | (.ok password,s₁) =>
    match exec rules script (makeBackup m backupPath password) s₁ with
    | (.error e,s₂) =>
      if reportsFailure e then FailRaises rules script ("Failed to create backup: " ++ e.text) s₂
      else e.isException = true
    | (.ok output,s₂) =>
      match exec rules script (storeLog m backupPath output) s₂ with
      | (.error e,s₃) =>
        if e.isRuntimeError then FailRaises rules script ("Failed to upload backup logs: " ++ e.text) s₃
        else e.isException = true
      | (.ok _,_) => False

/-- The instance is made accessible again after the body. -/
def Restores (backupPath : String) (s : Scene W Call) : Prop :=
  (exec rules script leaveIsolation (exec rules script (backupBody charm m backupPath) s).2).1 = .ok ()

variable (force : Bool) (w : W)

/-- The action gets to the `with` statement, and the body begins in a scene. -/
def Begins (backupPath : String) (mode : Isolation) (s : Scene W Call) : Prop :=
  ∃ requestTime s₀, play rules script (prepare charm m force) w = (.ok (some (requestTime,backupPath)),s₀) ∧
    exec rules script enterIsolation s₀ = (.ok mode,s)

def BackupMade : Prop := ∃ backupPath mode s, Begins rules script charm m force w backupPath mode s ∧
  Made rules script charm m backupPath s

def Reported : Prop := ∃ key value, Call.setResults key value ∈ (play rules script (onCreateBackup charm m force) w).2.log

end

section
variable {W : Type} (rules : Rules W Call Reply Exn) (script : Script Call Reply Exn) (charm : Charm)
variable (m : BackupManager) (backupPath : String) (s : Scene W Call)

/-- `event.fail` and `return`, in the body. -/
theorem failAndReturn_total (message : String) :
    (exec rules script (failAndReturn message) s).1 = .ok .returned ∧ ¬ FailRaises rules script message s ∨
    ∃ e, (exec rules script (failAndReturn message) s).1 = .error e ∧
      (FailRaises rules script message s ↔ e.isException = true) := by
  unfold FailRaises exec failAndReturn
  rw [run_bind,run_perform]
  rcases respond rules script s (.fail message) with ⟨e | u,s'⟩
  · exact .inr ⟨e,rfl,by simp⟩
  · exact .inl ⟨rfl,by simp⟩

/-- How the body ends: it goes on after a backup that was made, it raises what
    escapes, or it returns or raises what is no `Exception`. -/
def BodyEnds (made escapes : Prop) (r : Except Exn Flow) : Prop :=
  (made ∧ ¬ escapes ∧ r = .ok .continues) ∨
  (¬ made ∧ escapes ∧ ∃ e, r = .error e ∧ e.isException = true) ∨
  (¬ made ∧ ¬ escapes ∧ (r = .ok .returned ∨ ∃ e, r = .error e ∧ e.isException = false))

/-- A step raises, and its handler ends the body. -/
theorem bodyEnds_caught {made : Prop} (unmade : ¬ made) (message : String) :
    BodyEnds made (FailRaises rules script message s) (exec rules script (failAndReturn message) s).1 := by
  rcases failAndReturn_total rules script s message with ⟨ends,quiet⟩ | ⟨e,ends,raises⟩
  · exact .inr (.inr ⟨unmade,quiet,.inl ends⟩)
  · cases exceptional : e.isException with
    | true => exact .inr (.inl ⟨unmade,raises.mpr exceptional,e,ends,exceptional⟩)
    | false => exact .inr (.inr ⟨unmade,fun h => by simp [raises.mp h] at exceptional,.inr ⟨e,ends,exceptional⟩⟩)

/-- A step raises what no handler catches. -/
theorem bodyEnds_raised {made : Prop} (unmade : ¬ made) (e : Exn) :
    BodyEnds made (e.isException = true) (.error e) := by
  cases exceptional : e.isException with
  | true => exact .inr (.inl ⟨unmade,rfl,e,rfl,exceptional⟩)
  | false => exact .inr (.inr ⟨unmade,by simp,.inr ⟨e,rfl,exceptional⟩⟩)

theorem body_total : BodyEnds (Made rules script charm m backupPath s) (Escapes rules script charm m backupPath s)
    (exec rules script (backupBody charm m backupPath) s).1 := by
  have ends : exec rules script (backupBody charm m backupPath) s = _ := run_bind _ _ _ _
  rw [ends]
  unfold Escapes
  rcases value : exec rules script (SecretStore.getValue (secretLabel charm) passwordKeyBackups) s with ⟨e | password,s₁⟩
  · have unmade : ¬ Made rules script charm m backupPath s := by
      rintro ⟨_,_,_,_,_,value',_⟩; rw [value] at value'; cases value'
    rw [show run (respond rules script) _ s = _ from value]
    exact bodyEnds_raised unmade e
  rw [show run (respond rules script) _ s = _ from value]
  simp only [run_tryElse]
  rcases backup : exec rules script (makeBackup m backupPath password) s₁ with ⟨e | output,s₂⟩
  · have unmade : ¬ Made rules script charm m backupPath s := by
      rintro ⟨_,_,_,_,_,value',backup',_⟩
      rw [value] at value'; cases value'
      rw [backup] at backup'; cases backup'
    rw [show run (respond rules script) (makeBackup m backupPath password) s₁ = _ from backup]
    simp only
    by_cases caught : reportsFailure e = true
    · rw [if_pos caught,if_pos caught]
      exact bodyEnds_caught rules script s₂ unmade _
    · rw [if_neg caught,if_neg caught]
      exact bodyEnds_raised unmade e
  rw [show run (respond rules script) (makeBackup m backupPath password) s₁ = _ from backup]
  simp only
  rcases store : exec rules script (storeLog m backupPath output) s₂ with ⟨e | u,s₃⟩
  · have unmade : ¬ Made rules script charm m backupPath s := by
      rintro ⟨_,_,_,_,_,value',backup',store'⟩
      rw [value] at value'; cases value'
      rw [backup] at backup'; cases backup'
      rw [store] at store'; cases store'
    rw [show run (respond rules script) (storeLog m backupPath output) s₂ = _ from store]
    simp only
    by_cases caught : e.isRuntimeError = true
    · rw [if_pos caught,if_pos caught]
      exact bodyEnds_caught rules script s₃ unmade _
    · rw [if_neg caught,if_neg caught]
      exact bodyEnds_raised unmade e
  · rw [show run (respond rules script) (storeLog m backupPath output) s₂ = _ from store]
    exact .inl ⟨⟨password,s₁,output,s₂,s₃,value,backup,store⟩,id,rfl⟩

/-! ### Exactly the backups that were made -/

theorem setResults_outside (key value : String) : Outside works (.setResults key value) := rfl

/-- Reports are made after the `with` statement only. -/
theorem reported_after {p : Hook Flow} (inside : Avoids (Outside works) p) (requestTime : String)
    (unreported : ∀ key value, Call.setResults key value ∉ s.log) :
    (∃ key value, Call.setResults key value ∈ (exec rules script (do
      match ← p with
      | .returned => pure ()
      | .continues => ask (.setResults "backup-id" requestTime) : Hook Unit) s).2.log) ↔
      (exec rules script p s).1 = .ok .continues := by
  have quiet : ∀ key value, Call.setResults key value ∉ (exec rules script p s).2.log := fun key value =>
    mt (run_log_avoids rules script inside (setResults_outside key value) s).mp (unreported key value)
  unfold exec at quiet ⊢
  rw [run_bind]
  rcases ends : run (respond rules script) p s with ⟨e | flow,s'⟩ <;> rw [ends] at quiet
  · simpa using quiet
  · cases flow with
    | returned => simpa using quiet
    | continues => exact iff_of_true ⟨"backup-id",requestTime,by simp [respond]⟩ rfl

theorem works_isolateInstance {body : Hook Flow} (inside : Avoids (Outside works) body) :
    Avoids (Outside works) (isolateInstance body) := by
  refine avoids_bind (works_of_attends attends_enterIsolation) fun mode => ?_
  cases mode with
  | alone => exact inside
  | failed => exact inside
  | isolated =>
    exact avoids_bind (avoids_tryExcept inside (fun _ => trivial)) fun _ =>
      avoids_bind (works_of_attends attends_leaveIsolation) (fun _ => trivial)

/-- The body goes on exactly after a backup that was made. -/
theorem body_continues_iff : (exec rules script (backupBody charm m backupPath) s).1 = .ok .continues ↔
    Made rules script charm m backupPath s := by
  rcases body_total rules script charm m backupPath s with ⟨made,_,ends⟩ | ⟨unmade,_,e,ends,_⟩ | ⟨unmade,_,ends⟩
  · exact iff_of_true ends made
  · exact iff_of_false (by rw [ends]; exact nofun) unmade
  · refine iff_of_false ?_ unmade
    rcases ends with ends | ⟨e,ends,_⟩ <;> rw [ends] <;> exact nofun

/-- In an isolated instance the handler goes on after a backup that was made or an
    exception that escaped, provided that the instance is restored. -/
theorem isolated_continues_iff :
    (exec rules script (do
      let flow ← (backupBody charm m backupPath).tryExcept Exn.isException (fun _ => pure .continues)
      leaveIsolation
      pure flow) s).1 = .ok .continues ↔
      (Made rules script charm m backupPath s ∨ Escapes rules script charm m backupPath s) ∧
        Restores rules script charm m backupPath s := by
  have total := body_total rules script charm m backupPath s
  unfold Restores exec at *
  rw [run_bind,run_tryExcept]
  rcases ends : run (respond rules script) (backupBody charm m backupPath) s with ⟨e | flow,s'⟩ <;> rw [ends] at total
  · rcases total with ⟨_,_,other⟩ | ⟨unmade,escapes,e',same,exceptional⟩ | ⟨unmade,tight,other | ⟨e',same,base⟩⟩
    · cases other
    · cases same
      simp only [exceptional,if_true,run_pure,run_bind]
      rcases run (respond rules script) leaveIsolation s' with ⟨e | u,s''⟩ <;> simp [escapes]
    · cases other
    · cases same
      simp [base,unmade,tight]
  · rcases total with ⟨made,_,same⟩ | ⟨_,_,e',other,_⟩ | ⟨unmade,tight,same | ⟨e',other,_⟩⟩
    · cases same
      simp only [run_bind]
      rcases run (respond rules script) leaveIsolation s' with ⟨e | u,s''⟩ <;> simp [made]
    · cases other
    · cases same
      simp only [run_bind]
      rcases run (respond rules script) leaveIsolation s' with ⟨e | u,s''⟩ <;> simp [unmade,tight]
    · cases other

end

/-- The `with` statement goes on exactly after the backups that were made. -/
theorem isolate_exact_iff {W : Type} (rules : Rules W Call Reply Exn) (script : Script Call Reply Exn) (charm : Charm)
    (m : BackupManager) (backupPath : String) (s₀ : Scene W Call) :
    ((exec rules script (isolateInstance (backupBody charm m backupPath)) s₀).1 = .ok .continues ↔
      ∃ mode s, exec rules script enterIsolation s₀ = (.ok mode,s) ∧ Made rules script charm m backupPath s) ↔
      ∀ s, exec rules script enterIsolation s₀ = (.ok .isolated,s) →
        (Escapes rules script charm m backupPath s → ¬ Restores rules script charm m backupPath s) ∧
        (Made rules script charm m backupPath s → Restores rules script charm m backupPath s) := by
  have ran : exec rules script (isolateInstance (backupBody charm m backupPath)) s₀ = _ :=
    run_bind (respond rules script) _ _ _
  rw [ran,show run (respond rules script) enterIsolation s₀ = exec rules script enterIsolation s₀ from rfl]
  rcases exec rules script enterIsolation s₀ with ⟨e | mode,s⟩
  · simp
  have made : (∃ mode' s', ((.ok mode,s) : Except Exn Isolation × Scene W Call) = (.ok mode',s') ∧
      Made rules script charm m backupPath s') ↔ Made rules script charm m backupPath s := by
    constructor
    · rintro ⟨_,_,same,made⟩; cases same; exact made
    · exact fun made => ⟨mode,s,rfl,made⟩
  rw [made]
  cases mode with
  | alone => exact iff_of_true (body_continues_iff rules script charm m backupPath s) (fun _ other => nomatch other)
  | failed => exact iff_of_true (body_continues_iff rules script charm m backupPath s) (fun _ other => nomatch other)
  | isolated =>
    have continues := isolated_continues_iff rules script charm m backupPath s
    unfold exec at continues
    have exclusive : Made rules script charm m backupPath s → ¬ Escapes rules script charm m backupPath s := by
      rcases body_total rules script charm m backupPath s with ⟨_,tight,_⟩ | ⟨unmade,_⟩ | ⟨unmade,_⟩
      · exact fun _ => tight
      · exact fun made => absurd made unmade
      · exact fun made => absurd made unmade
    simp only
    rw [continues]
    constructor
    · intro exact_ s' same
      cases same
      exact ⟨fun escapes restores => exclusive (exact_.mp ⟨.inr escapes,restores⟩) escapes,fun made => (exact_.mpr made).2⟩
    · intro condition
      obtain ⟨escapes,restores⟩ := condition s rfl
      constructor
      · rintro ⟨made | escaped,restored⟩
        · exact made
        · exact absurd restored (escapes escaped)
      · exact fun made => ⟨.inl made,restores made⟩

/-- An action reports exactly the backups that were made if and only if, in an
    isolated instance, what escapes is not followed by a restored instance and a
    backup that was made is. -/
theorem report_exact_iff {W : Type} (rules : Rules W Call Reply Exn) (script : Script Call Reply Exn) (charm : Charm)
    (m : BackupManager) (force : Bool) (w : W) :
    (Reported rules script charm m force w ↔ BackupMade rules script charm m force w) ↔
      ∀ backupPath s, Begins rules script charm m force w backupPath .isolated s →
        (Escapes rules script charm m backupPath s → ¬ Restores rules script charm m backupPath s) ∧
        (Made rules script charm m backupPath s → Restores rules script charm m backupPath s) := by
  have silent : ∀ key value, Call.setResults key value ∉ (play rules script (prepare charm m force) w).2.log :=
    fun key value => mt (run_log_avoids rules script (works_prepare charm m force) (setResults_outside key value) _).mp
      (by simp)
  have ran : play rules script (onCreateBackup charm m force) w = _ := run_bind (respond rules script) _ _ _
  unfold Reported BackupMade Begins
  rw [ran,show run (respond rules script) (prepare charm m force) ⟨w,[]⟩ =
    play rules script (prepare charm m force) w from rfl]
  rcases prepares : play rules script (prepare charm m force) w with ⟨e | prepared,s₀⟩ <;> rw [prepares] at silent
  · simp [silent]
  rcases prepared with _ | ⟨requestTime,backupPath⟩
  · simp [silent]
  have reported := reported_after rules script s₀ (works_isolateInstance (works_backupBody charm m backupPath))
    requestTime silent
  refine (iff_congr (iff_congr reported ?_) ?_).mpr (isolate_exact_iff rules script charm m backupPath s₀)
  · constructor
    · rintro ⟨_,mode,s,⟨_,_,same,entered⟩,made⟩
      cases same
      exact ⟨mode,s,entered,made⟩
    · rintro ⟨mode,s,entered,made⟩
      exact ⟨backupPath,mode,s,⟨requestTime,s₀,rfl,entered⟩,made⟩
  · constructor
    · exact fun all s entered => all backupPath s ⟨requestTime,s₀,rfl,entered⟩
    · rintro all _ s ⟨_,_,same,entered⟩
      cases same
      exact all s entered

/-- Two instances, an isolated instance, and a secret without the password of the
    backups; every call succeeds. -/
def noPasswordScript : Script Call Reply Exn where
  reply c _ := match c with
    | .relation _ => .ok true
    | .snapPresent => .ok true
    | .snapServiceActive => .ok true
    | .appData _ => .ok (some "cluster")
    | .clusterLabels _ => .ok ["cluster"]
    | .clusterStatus _ => .ok ⟨.primary,.ok,some "10.0.0.11:3306",
        [("mysql-0",⟨.online,"R/O",none,none⟩),("mysql-1",⟨.online,"R/W",none,none⟩)]⟩
    | .instanceState _ => .ok (some .online)
    | _ => .ok default
  takesEffect _ _ := false

def freeRules : Rules Unit Call Reply Exn := ⟨fun _ _ r => r,fun w _ _ _ => w⟩

def backupUnit : Charm := ⟨.vm,"mysql",0,"cluster","10.0.0.10"⟩

def backupManager : BackupManager := ⟨.vm,some ⟨"bucket","backups",none,[],[]⟩⟩

/-- The missing password raises a `ValueError` that the isolated instance swallows,
    and the action reports a backup that was never made. -/
theorem noPassword_reported :
    Reported freeRules noPasswordScript backupUnit backupManager false () ∧
      ¬ BackupMade freeRules noPasswordScript backupUnit backupManager false () := by
  refine ⟨⟨"backup-id","1970-01-01T00:00:00Z",by decide⟩,?_⟩
  rintro ⟨_,_,s,_,⟨password,_,_,_,_,value,_⟩⟩
  have raises : (exec freeRules noPasswordScript
      (SecretStore.getValue (secretLabel backupUnit) passwordKeyBackups) s).1 =
      .error ⟨.valueError,"Failed to get secret key " ++ passwordKeyBackups⟩ := rfl
  rw [value] at raises
  cases raises

end MysqlOperators.BackupReport
