import MysqlOperators.BackupNames
import MysqlOperators.BackupWorld

/-!
Backups that come back. Units back up and restore in any order, with calls that fail and
streams that break off; a server that a restore has started has all that was stored under
the identifier that was asked for, and where a backup has stored its data there, that data.
-/
namespace MysqlOperators.BackupRoundTrip
open MysqlOperators.Program MysqlOperators.Program.Prog MysqlOperators.External MysqlOperators.Clients
open MysqlOperators.Workload MysqlOperators.Helpers MysqlOperators.Backup MysqlOperators.Restore
open MysqlOperators.Interleaving MysqlOperators.Quiet MysqlOperators.BackupReport MysqlOperators.BackupListing
open MysqlOperators.BackupWorld
open MysqlOperators.RestoreSafety (Under optionValues prepareArgs)
open MysqlOperators.Restarts (Application)

variable {δ : Type}

/-! ### Parts that change nothing -/

section
variable {α : Type}

theorem idle_quiet {p : Hook α} (silent : Avoids Loud p) : Avoids (Outside idles) p := by
  refine avoids_mono (fun c busy => ?_) silent
  cases c <;> first | rfl | cases busy

theorem idle_uploadFile (m : BackupManager) (contents path : String) :
    Avoids (Outside idles) (uploadFile m contents path) := by
  refine avoids_mono (fun c busy => ?_) (inside_uploadFile m contents path)
  cases c <;> first | rfl | cases busy

theorem idle_createTemporaryDir (m : BackupManager) (dirPrefix : String) :
    Avoids (Outside idles) (createTemporaryDir m dirPrefix) :=
  avoids_bind (inside_ask rfl) fun _ => avoids_bind (inside_ask rfl) fun _ => trivial

theorem idle_createTemporaryCa (m : BackupManager) : Avoids (Outside idles) (createTemporaryCa m) := by
  refine avoids_bind (avoids_getStorage m) fun found => ?_
  split
  · trivial
  · exact avoids_bind (idle_createTemporaryDir m _) fun _ => avoids_bind (inside_ask rfl) fun _ => trivial

theorem idle_getValue (label key : String) : Avoids (Outside idles) (SecretStore.getValue label key) := by
  refine avoids_bind (avoids_tryExcept (inside_ask rfl) (fun _ => trivial)) fun _ =>
    avoids_bind (inside_ask rfl) fun content => ?_
  split <;> trivial

theorem idle_runChecks (force : Bool) : Avoids (Outside idles) (runChecks force) := by
  refine avoids_tryElse (idle_quiet (avoids_bind quiet_checkCluster fun _ => quiet_checkInstance)) (fun e => ?_)
    (fun _ => trivial)
  exact avoids_ite _ (fun _ => trivial) (fun _ => avoids_bind (inside_ask rfl) (fun _ => trivial))

theorem idle_uploadMetadata (charm : Charm) (m : BackupManager) (requestTime : String) :
    Avoids (Outside idles) (uploadMetadata charm m requestTime) := by
  refine avoids_bind (avoids_tryExcept ?_ fun e => avoids_bind (inside_ask rfl) (fun _ => trivial)) fun built => ?_
  · refine avoids_bind (avoids_getStorage m) fun storage => avoids_bind ?_ (fun _ => trivial)
    exact avoids_bind (inside_ask rfl) fun _ => avoids_bind (inside_ask rfl) (fun _ => trivial)
  · split
    · trivial
    · exact avoids_tryElse (idle_uploadFile _ _ _) (fun e => avoids_bind (inside_ask rfl) (fun _ => trivial))
        (fun _ => trivial)

theorem idle_prepare (charm : Charm) (m : BackupManager) (force : Bool) :
    Avoids (Outside idles) (prepare charm m force) := by
  have skips : ∀ reason, Avoids (Outside idles) (do Backup.skip reason; pure none : Hook (Option (String × String))) :=
    fun reason => avoids_bind (inside_ask rfl) (fun _ => trivial)
  refine avoids_bind (inside_ask rfl) fun related => avoids_ite _ (fun _ => ?_) (fun _ => skips _)
  refine avoids_bind (idle_quiet (quiet_initialized charm)) fun ready => ?_
  refine avoids_ite _ (fun _ => ?_) (fun _ => skips _)
  refine avoids_bind (inside_ask rfl) fun refreshing => avoids_ite _ (fun _ => skips _) fun _ => ?_
  refine avoids_bind (idle_runChecks force) fun passed => avoids_ite _ (fun _ => ?_) (fun _ => trivial)
  exact avoids_bind (inside_ask rfl) fun time => avoids_bind (idle_uploadMetadata _ _ _) (fun _ => trivial)

theorem idle_enterIsolation : Avoids (Outside idles) enterIsolation := by
  refine avoids_bind (idle_quiet (quiet_fetchInstances _)) fun instances => avoids_ite _ (fun _ => trivial) fun _ => ?_
  exact avoids_tryElse (avoids_bind (inside_ask rfl) fun _ => inside_ask rfl) (fun _ => trivial) (fun _ => trivial)

theorem idle_leaveIsolation : Avoids (Outside idles) leaveIsolation :=
  avoids_tryExcept (avoids_bind (inside_ask rfl) fun _ => inside_ask rfl) (fun _ => trivial)

theorem idle_restoreAllowed (charm : Charm) : Avoids (Outside idles) (restoreAllowed charm) := by
  have skips (reason : String) : Avoids (Outside idles) (Restore.skip reason) :=
    avoids_bind (inside_ask rfl) fun _ => trivial
  refine avoids_bind (inside_ask rfl) fun related => avoids_ite _ (fun _ => ?_) (fun _ => skips _)
  refine avoids_bind (idle_quiet (quiet_initialized charm)) fun ready => ?_
  refine avoids_ite _ (fun _ => ?_) (fun _ => skips _)
  refine avoids_bind (inside_ask rfl) fun refreshing => avoids_ite _ (fun _ => skips _) fun _ => ?_
  exact avoids_bind (inside_ask rfl) fun planned => avoids_ite _ (fun _ => skips _) (fun _ => trivial)

theorem idle_reporting {catches : Exn → Bool} {message : String} {step : Hook α}
    (inside : Avoids (Outside idles) step) : Avoids (Outside idles) (reporting catches message step) :=
  avoids_tryElse inside (fun _ => avoids_bind (inside_ask rfl) fun _ => trivial) fun _ => trivial

theorem idle_checkExists (m : BackupManager) (backupId : String) :
    Avoids (Outside idles) (checkExists m backupId) := by
  refine idle_reporting (avoids_bind (avoids_getStorage m) fun folder => ?_)
  refine avoids_bind (avoids_getStorage m) fun found => ?_
  exact avoids_temporaryFile (fun _ => by simp [Outside,idles]) (fun _ => by simp [Outside,idles]) fun caChainFile =>
    avoids_bind (inside_ask rfl) fun _ => inside_ask rfl

theorem idle_recreateCluster (label : String) : Avoids (Outside idles) (Restore.recreateCluster label) := by
  refine avoids_bind (avoids_bind (inside_ask rfl) fun _ => inside_ask rfl) fun _ => ?_
  refine avoids_bind (avoids_bind (inside_ask rfl) fun _ => trivial) fun _ => ?_
  refine avoids_bind (avoids_bind (inside_ask rfl) fun _ => inside_ask rfl) fun _ => ?_
  exact avoids_bind (inside_ask rfl) fun _ => inside_ask rfl

end

/-! ### Backing up -/

section
variable (storage : Option BackupStorage) (s : Substrate)

/-- Calls that a backup does not make. -/
def harms : Call → Prop
  | .startProcess command _ (some _) => ∀ t, command.getLast? ≠ some (pathOf storage (idOf t))
  | .executeSync command => touches s command = true
  | .snapStart _ | .containerStart _ => True
  | .setResults key _ => key = "completed"
  | _ => False

end

section
variable {app : Application} {storage : Option BackupStorage} {u : UnitId} {s : Substrate} {α : Type}

theorem harmless_idle {p : Hook α} (idle : Avoids (Outside idles) p) : Avoids (harms storage s) p := by
  refine avoids_mono (fun c harm => ?_) idle
  cases c <;> first | rfl | cases harm

theorem harmless_createBackup (t : Python.Moment) (username password : String) :
    Avoids (harms storage s) (createBackup ⟨s,storage⟩ (pathOf storage (idOf t)) username password) := by
  refine avoids_bind (harmless_idle (inside_ask rfl)) fun cores => ?_
  refine avoids_bind (harmless_idle (idle_createTemporaryCa _)) fun caChainPath => ?_
  refine avoids_bind (harmless_idle (idle_createTemporaryDir _ _)) fun dir => ?_
  refine avoids_bind (avoids_getStorage _) fun found => ?_
  refine avoids_bind (avoids_executeAsync id (fun _ => id) fun backup => ?_) fun output => ?_
  · refine avoids_executeAsync (fun other => ?_) (fun _ => id) fun upload => ?_
    · exact other t (by simp only [uploadCommand,List.getLast?_concat])
    · exact avoids_bind (harmless_idle (inside_ask rfl)) fun _ => avoids_bind (harmless_idle (inside_ask rfl)) fun _ =>
        avoids_bind (harmless_idle (inside_ask rfl)) fun _ => trivial
  · split <;> trivial

theorem temp_apart (s : Substrate) : mysqlTemp s ≠ mysqlData s ∧ mysqlTemp s ≠ mysqlLogs s := by
  cases s <;> decide

theorem harmless_storeLog (backupPath output : String) :
    Avoids (harms storage s) (storeLog ⟨s,storage⟩ backupPath output) := by
  refine avoids_bind (harmless_idle (idle_uploadFile _ _ _)) fun _ => ?_
  refine avoids_bind (avoids_ask fun touched => ?_) fun _ => trivial
  rcases of_decide_eq_true touched with data | logs
  · exact (temp_apart s).1 data
  · exact (temp_apart s).2 logs

theorem harmless_backupBody (charm : Charm) (t : Python.Moment) :
    Avoids (harms storage s) (backupBody charm ⟨s,storage⟩ (pathOf storage (idOf t))) := by
  have reports (message : String) : Avoids (harms storage s) (failAndReturn message) :=
    harmless_idle (avoids_bind (inside_ask rfl) fun _ => trivial)
  refine avoids_bind (harmless_idle (idle_getValue _ _)) fun password => ?_
  refine avoids_tryElse (avoids_bind ?_ fun _ => avoids_bind (harmless_createBackup t _ _) fun _ => trivial)
    (fun _ => reports _) fun output => ?_
  · exact harmless_idle (idle_quiet (quiet_setUnitStatus _))
  · exact avoids_tryElse (harmless_storeLog _ _) (fun _ => reports _) fun _ => trivial

theorem harmless_onCreateBackup (charm : Charm) (force : Bool) :
    Avoids (harms storage s) (onCreateBackup charm ⟨s,storage⟩ force) := by
  refine avoids_bind_returns (harmless_idle (idle_prepare charm _ force)) (prepare_stores charm _ force).2
    fun ready times => ?_
  rcases ready with _ | ⟨requestTime,path⟩
  · trivial
  obtain ⟨⟨t,rfl,rfl⟩,_⟩ := times requestTime path rfl
  refine avoids_bind ?_ fun flow => ?_
  · refine avoids_bind (harmless_idle idle_enterIsolation) fun mode => ?_
    cases mode with
    | alone | failed => exact harmless_backupBody charm t
    | isolated =>
      refine avoids_bind (avoids_tryExcept (harmless_backupBody charm t) fun _ => trivial) fun _ => ?_
      exact avoids_bind (harmless_idle idle_leaveIsolation) fun _ => trivial
  · cases flow with
    | returned => trivial
    | continues => exact avoids_ask (show ¬ "backup-id" = "completed" by decide)

theorem allowed_of_harmless {w : World δ} {c : Call} (harmless : ¬ harms storage (substrate app u) c) :
    Allowed app storage w u c := by
  cases c with
  | startProcess command environ stdin =>
    intro from_ path upload
    obtain ⟨_,same⟩ | ⟨_,_,piped,last,same⟩ | ⟨_,_,same⟩ | same | same :=
      started_cases (substrate app u) w.store.read command stdin <;> rw [same] at upload
    case inr.inl =>
      obtain ⟨source,rfl⟩ := Option.isSome_iff_exists.mp piped
      have uploads : ∃ t, command.getLast? = some (pathOf storage (idOf t)) := by simpa [harms] using harmless
      obtain ⟨t,named⟩ := uploads
      rw [named] at last
      cases upload
      exact ⟨t,last.symm⟩
    all_goals cases upload
  | executeSync command => exact fun touched => absurd touched harmless
  | snapStart | containerStart => exact absurd trivial harmless
  | setResults key value => exact fun same => absurd same harmless
  | _ => trivial

theorem outline_onCreateBackup (force : Bool) : (contract storage).Outline (system app storage) u
    (onCreateBackup (app.charm u) (manager app storage u) force) (fun _ : World δ => True) (fun _ _ => True) :=
  Contract.outline_frame ((contract storage).stable_const u True)
    (fun _ harmless => takes_call (fun _ _ _ => allowed_of_harmless harmless) fun _ _ _ _ _ => trivial)
    (harmless_onCreateBackup (app.charm u) force)

end

/-! ### What a restore knows -/

section
variable (storage : Option BackupStorage)

/-- The process downloads what was asked for. -/
def Downloads (id : String) (process : Nat) (h : Host δ) : Prop :=
  h.asked = id ∧ ∃ stream whole,
    h.processes[process]? = some (.download stream whole) ∧ stream.path = pathOf storage id

def Extracts (id : String) (download : Nat) (dir : String) (process : Nat) (h : Host δ) : Prop :=
  Downloads storage id download h ∧ h.processes[process]? = some (.extract download dir.toList)

/-- All that was under the path is in the directory, as it came or prepared. -/
def Downloaded (prepared : Bool) (dir : String) (store : Store δ) (h : Host δ) : Prop :=
  ∃ stream, h.directories dir.toList = some (some stream,prepared) ∧ stream.path = source storage h ∧
    (Unreplaced storage store h → stream.data = h.wanted)

/-- It is, unless the download has broken off. -/
def Arrived (dir : String) (download : Nat) (store : Store δ) (h : Host δ) : Prop :=
  Downloaded storage false dir store h ∧ (∃ stream, h.processes[download]? = some (.download stream true)) ∨
    h.processes[download]? = some .broken

def Halted (dir : String) (store : Store δ) (h : Host δ) : Prop :=
  Downloaded storage true dir store h ∧ h.running = false

def Cleared (dir : String) (store : Store δ) (h : Host δ) : Prop := Halted storage dir store h ∧ h.data = .empty

/-- The data was moved back, and the server waits for its start. -/
def MovedBack (store : Store δ) (h : Host δ) : Prop := h.running = false ∧ Restored storage store h h.data

end

section
variable {storage : Option BackupStorage} {store store' : Store δ} {h h' : Host δ} {id dir : String} {prepared : Bool}
variable {download : Nat}

/-- A process that can do no more stays as it is. -/
theorem drift_done (drift : Drift h h') {process : Nat} {found : Process δ} (there : h.processes[process]? = some found)
    (copied : found ≠ .backup none) (handed : ∀ stream, found ≠ .download stream false) :
    h'.processes[process]? = some found := by
  obtain ⟨later,known,rfl | ⟨reads,-⟩ | ⟨stream,_,reads,-⟩⟩ := drift.processes process found there
  · exact known
  · exact absurd reads copied
  · exact absurd reads (handed stream)

theorem drift_downloads (drift : Drift h h') {process : Nat} (downloads : Downloads storage id process h) :
    Downloads storage id process h' := by
  obtain ⟨asked,stream,whole,found,path⟩ := downloads
  refine ⟨drift.restore.asked.trans asked,?_⟩
  obtain ⟨later,known,rfl | ⟨reads,-⟩ | ⟨stream₁,stream₂,reads,rfl,same⟩⟩ := drift.processes process _ found
  · exact ⟨stream,whole,known,path⟩
  · cases reads
  · cases reads
    exact ⟨stream₂,true,known,same.trans path⟩

theorem drift_extracts (drift : Drift h h') {process : Nat} (extracts : Extracts storage id download dir process h) :
    Extracts storage id download dir process h' :=
  ⟨drift_downloads drift extracts.1,drift_done drift extracts.2 nofun nofun⟩

theorem downloaded_kept (same : SameRestore h h') (kept : h'.directories dir.toList = h.directories dir.toList)
    (downloaded : Downloaded storage prepared dir store h) : Downloaded storage prepared dir store h' := by
  obtain ⟨stream,found,path,wanted⟩ := downloaded
  refine ⟨stream,kept.trans found,path.trans (source_same same).symm,fun unreplaced => ?_⟩
  rw [same.wanted]
  exact wanted ((unreplaced_same same).mp unreplaced)

theorem drift_downloaded (drift : Drift h h') (downloaded : Downloaded storage prepared dir store h) :
    Downloaded storage prepared dir store h' :=
  downloaded_kept drift.restore (congrFun drift.directories _) downloaded

theorem downloaded_grows (grows : Grows store store') (good : Good storage store h)
    (downloaded : Downloaded storage prepared dir store h) : Downloaded storage prepared dir store' h := by
  obtain ⟨stream,found,path,wanted⟩ := downloaded
  exact ⟨stream,found,path,fun later => wanted (unreplaced_mono grows good.began later)⟩

theorem drift_halted (drift : Drift h h') (halted : Halted storage dir store h) : Halted storage dir store h' :=
  ⟨drift_downloaded drift halted.1,(drift.stopped halted.2).1⟩

theorem halted_grows (grows : Grows store store') (good : Good storage store h) (halted : Halted storage dir store h) :
    Halted storage dir store' h := ⟨downloaded_grows grows good halted.1,halted.2⟩

variable {u : UnitId}

theorem stable_own {P : Host δ → Prop} (drifts : ∀ h h', Drift h h' → P h → P h') :
    (contract storage).Stable u (fun w => P (w.host u)) :=
  stable_host (P := fun _ => P) (fun _ => drifts) (fun _ _ _ _ _ holds => holds)

theorem stable_asked : (contract storage).Stable u (fun w : World δ => (w.host u).asked = id) :=
  stable_own (P := fun h => h.asked = id) fun _ _ drift asked => drift.restore.asked.trans asked

theorem stable_arrived :
    (contract storage).Stable u (fun w : World δ => Arrived storage dir download w.store (w.host u)) := by
  refine stable_host (fun store h h' drift arrived => ?_) (fun store store' h grows good arrived => ?_)
  · rcases arrived with ⟨downloaded,stream,found⟩ | broken
    · exact .inl ⟨drift_downloaded drift downloaded,stream,drift_done drift found nofun nofun⟩
    · exact .inr (drift_done drift broken nofun nofun)
  · exact arrived.imp_left fun ⟨downloaded,handed⟩ => ⟨downloaded_grows grows good downloaded,handed⟩

theorem stable_downloaded :
    (contract storage).Stable u (fun w : World δ => Downloaded storage prepared dir w.store (w.host u)) :=
  stable_host (fun _ _ _ => drift_downloaded) fun _ _ _ => downloaded_grows

theorem stable_halted : (contract storage).Stable u (fun w : World δ => Halted storage dir w.store (w.host u)) :=
  stable_host (fun _ _ _ => drift_halted) fun _ _ _ => halted_grows

theorem stable_cleared : (contract storage).Stable u (fun w : World δ => Cleared storage dir w.store (w.host u)) := by
  refine stable_host (fun store h h' drift cleared => ?_) (fun store store' h grows good cleared => ?_)
  · exact ⟨drift_halted drift cleared.1,(drift.stopped cleared.1.2).2.trans cleared.2⟩
  · exact ⟨halted_grows grows good cleared.1,cleared.2⟩

theorem stable_movedBack :
    (contract storage).Stable u (fun w : World δ => MovedBack storage w.store (w.host u)) := by
  refine stable_host (fun store h h' drift moved => ?_) (fun store store' h grows good moved => ?_)
  · obtain ⟨stopped,same⟩ := drift.stopped moved.1
    exact ⟨stopped,same ▸ restored_same drift.restore moved.2⟩
  · exact ⟨moved.1,restored_mono grows good.began moved.2⟩

theorem stable_launched : (contract storage).Stable u (fun w : World δ => (w.host u).launched.isSome = true) := by
  refine stable_own (P := fun h => h.launched.isSome = true) fun h h' drift launched => ?_
  rw [drift.launched]
  exact launched

end

/-! ### Commands of a restore -/

section
variable {s : Substrate}

theorem started_download (read : String → Stream δ) (cores : Nat) (args : List String) (path : String) :
    started s read (downloadCommand s cores args path) none = .download (read path) false := by
  have last : (downloadCommand s cores args path).getLast? = some path := List.getLast?_concat
  simp [started,last]
  simp [downloadCommand]

theorem started_decompress (read : String → Stream δ) (cores : Nat) (dir : String) (source : Nat) :
    started s read (decompressCommand s cores dir) (some source) = .extract source dir.toList := by
  simp only [started,RestoreSafety.extracted_decompress]

/-- The arguments of `restore_backup` before the directory. -/
def restoreOptions (s : Substrate) : List String :=
  [binary s "xtrabackup","--defaults-file=" ++ mysqlConfigDefault s,"--defaults-group=mysqld",
   "--datadir=" ++ mysqlData s,"--move-back","--force-non-empty-directories",
   "--xtrabackup-plugin-dir=" ++ backupPlugins s]

def restoreArgs (s : Substrate) (backupPath : String) : List String :=
  restoreOptions s ++ ["--target-dir=" ++ backupPath,"--no-version-check"]

theorem targets_restore (backupPath : String) :
    optionValues "--target-dir=" (restoreArgs s backupPath) = [backupPath.toList] := by
  have target := RestoreSafety.option_value "--target-dir=" backupPath
  have before : (restoreOptions s).filterMap (fun arg => arg.toList.dropPrefix? "--target-dir=".toList) = [] := by
    cases s <;> decide
  have after : "--no-version-check".toList.dropPrefix? "--target-dir=".toList = none := by decide
  rw [restoreArgs,optionValues,List.filterMap_append,before]
  simp only [List.nil_append,List.filterMap_cons,List.filterMap_nil,target,after]

theorem restore_prepared (backupPath : String) : "--prepare" ∉ restoreArgs s backupPath := by
  have target : "--target-dir=" ++ backupPath ≠ "--prepare" := RestoreSafety.start_ne (by decide)
  have before : "--prepare" ∉ restoreOptions s := by cases s <;> decide
  simp [restoreArgs,before,target.symm]

theorem restore_moves (backupPath : String) : "--move-back" ∈ restoreArgs s backupPath := by
  simp [restoreArgs,restoreOptions]

end

/-! ### Restoring -/

section
variable (app : Application) (storage : Option BackupStorage) (u : UnitId)

abbrev Yields {α : Type} (p : Hook α) (L : World δ → Prop) (D : α → World δ → Prop) : Prop :=
  (contract storage).Yields (system app storage) u p L D

end

section
variable {app : Application} {storage : Option BackupStorage} {u : UnitId} {α : Type} {L : World δ → Prop}

theorem yields_ask {c : Call} {D : Reply c → World δ → Prop} (stable : (contract storage).Stable u L)
    (allowed : ∀ w, Inv storage w → L w → Allowed app storage w u c)
    (post : ∀ w raw happened a, Inv storage w → L w → w.answer u c raw = .ok a →
      D a (w.effect app u c (.ok a) happened)) :
    Yields app storage u (ask c) L D := by
  refine Contract.yields_perform stable (takes_call allowed fun w raw happened inv holds a answered => ?_)
  rw [answered]
  exact post w raw happened a inv holds answered

theorem yields_idle {p : Hook α} (stable : (contract storage).Stable u L) (idle : Avoids (Outside idles) p) :
    Yields app storage u p L (fun _ => L) :=
  Contract.outline_post (outline_idle stable idle) fun _ _ _ holds _ _ => holds

/-- A part that changes nothing, at the end. -/
theorem yields_end {p : Hook α} (idle : Avoids (Outside idles) p) :
    Yields app storage u p L (fun _ _ => True) :=
  Contract.yields_pre (yields_idle ((contract storage).stable_const u True) idle) fun _ _ _ => trivial

theorem yields_reporting {D : α → World δ → Prop} {catches : Exn → Bool} {message : String} {step : Hook α}
    (inside : Yields app storage u step L D) :
    Yields app storage u (reporting catches message step) L (fun r w => ∀ a, r = some a → D a w) := by
  refine Contract.yields_tryElse inside (fun e => ?_) fun a => ?_
  · refine Contract.yields_bind (yields_end (inside_ask rfl)) fun _ => Contract.yields_pure ?_
    exact fun _ _ _ _ same => by cases same
  · refine Contract.yields_pure fun w _ holds b same => ?_
    cases same
    exact holds

theorem yields_executeAsync {s : Substrate} {command : List String} {environ : List (String × String)}
    {stdin : Option Nat} {body : Nat → Hook α} {S : Nat → World δ → Prop} {M : Nat → α → World δ → Prop}
    {D : α → World δ → Prop} (start : Yields app storage u (ask (.startProcess command environ stdin)) L S)
    (inside : ∀ process, Yields app storage u (body process) (S process) (M process))
    (wait : ∀ process a,
      Yields app storage u (ask (.waitProcess process)) (M process a) fun code w => code = 0 → D a w) :
    Yields app storage u (executeAsync s command environ stdin body) L D := by
  refine Contract.yields_bind start fun process => Contract.yields_handle (inside process) (fun a => ?_) fun e => ?_
  · refine Contract.yields_bind (wait process a) fun code => Contract.yields_ite _ (fun _ => Contract.yields_raise) ?_
    exact fun ended => Contract.yields_pure fun _ _ owed => owed (not_not.mp ended)
  · have waits : Yields app storage u (ask (.waitProcess process)) (fun _ => True) fun _ (_ : World δ) => True :=
      yields_ask ((contract storage).stable_const u True) (fun _ _ _ => trivial) fun _ _ _ _ _ _ _ => trivial
    refine Contract.yields_bind waits fun code => ?_
    cases s
    · exact Contract.yields_raise
    · exact Contract.yields_ite _ (fun _ => Contract.yields_raise) fun _ => Contract.yields_raise

/-! ### The download -/

theorem host_startProcess (w : World δ) (command : List String) (environ : List (String × String)) (stdin : Option Nat)
    (number : Nat) (happened : Bool) :
    (w.effect app u (.startProcess command environ stdin) (.ok number) happened).host u =
      { w.host u with
        processes := (w.host u).processes ++ [started (substrate app u) w.store.read command stdin] } := by
  show ((w.setHost u _).host u) = _
  exact setHost_same w u _

theorem yields_startProcess {command : List String} {environ : List (String × String)} {stdin : Option Nat}
    {P : Host δ → Prop} {S : Nat → Host δ → Prop} (drifts : ∀ h h', Drift h h' → P h → P h')
    (allowed : ∀ (w : World δ) from_ path, started (substrate app u) w.store.read command stdin ≠ .upload from_ path)
    (post : ∀ (w : World δ), P (w.host u) →
      S (w.host u).processes.length { w.host u with
        processes := (w.host u).processes ++ [started (substrate app u) w.store.read command stdin] }) :
    Yields app storage u (ask (.startProcess command environ stdin)) (fun w => P (w.host u))
      (fun process w => S process (w.host u)) := by
  refine yields_ask (stable_own drifts) (fun w _ _ from_ path same => absurd same (allowed w from_ path)) ?_
  intro w raw happened number inv holds answered
  rw [host_startProcess]
  cases raw with
  | error e => cases answered
  | ok given =>
    obtain rfl : (w.host u).processes.length = number := Except.ok.inj answered
    exact post w holds

/-- When `xbstream` has read to the end, the directory has the whole stream, or the
    download broke off. -/
theorem arrived_settle {w : World δ} (inv : Inv storage w) {id dir : String} {download process : Nat}
    (extracts : Extracts storage id download dir process (w.host u)) :
    Arrived storage dir download (w.settle u process true).store ((w.settle u process true).host u) := by
  obtain ⟨⟨asked,stream,whole,found,path⟩,extract⟩ := extracts
  have asked' : stream.path = source storage (w.host u) := by rw [path,source,asked]
  have settled : w.settle u process true =
      w.setHost u (((w.host u).closed download).fill dir.toList ((w.host u).fetched download)) := by
    simp [World.settle,extract]
  rw [settled,setHost_same]
  cases whole with
  | true =>
    have reads := ((inv.good u).processes _ (List.mem_of_getElem? found)).2
    refine .inl ⟨⟨stream,?_,asked',fun unreplaced => (reads asked' unreplaced).2⟩,stream,?_⟩
    · simp [Host.fill,Host.fetched,found]
    · simp [Host.fill,Host.closed,found,Process.finished]
  | false =>
    refine .inr ?_
    simp [Host.fill,Host.closed,found,Process.finished]

/-- A process that exits with 0 is not broken. -/
theorem finished_of_exit {w : World δ} {process : Nat} {raw : Except Exn Int}
    (exits : w.answer u (.waitProcess process) raw = .ok 0) : (w.host u).processes[process]? ≠ some .broken := by
  intro broken
  cases raw with
  | error e => cases exits
  | ok code =>
    have nonzero : (if code = 0 then 1 else code) = 0 := by
      simpa [World.answer,broken,Process.finished] using exits
    split at nonzero
    · cases nonzero
    · contradiction

/-- So a download that exits with 0 has come as a whole. -/
theorem downloaded_settle {w : World δ} {dir : String} {download : Nat} {raw : Except Exn Int} (done : Bool)
    (arrived : Arrived storage dir download w.store (w.host u))
    (exits : w.answer u (.waitProcess download) raw = .ok 0) :
    Downloaded storage false dir (w.settle u download done).store ((w.settle u download done).host u) := by
  rcases arrived with ⟨downloaded,stream,found⟩ | broken
  · have settled : w.settle u download done = w := by simp [World.settle,found]
    rw [settled]
    exact downloaded
  · exact absurd broken (finished_of_exit exits)

theorem yields_decompress (id dir : String) (cores download : Nat) :
    Yields app storage u
      (executeAsync (substrate app u) (decompressCommand (substrate app u) cores dir) [] (some download)
        fun decompress => do
          let output ← ask (.readOutput decompress)
          ask (.closeOutput decompress)
          ask (.closeOutput download)
          pure output)
      (fun w : World δ => Downloads storage id download (w.host u))
      (fun _ w => Arrived storage dir download w.store (w.host u)) := by
  refine yields_executeAsync (M := fun process _ w => Extracts storage id download dir process (w.host u))
    (yields_startProcess (S := Extracts storage id download dir) (fun _ _ drift => drift_downloads drift) ?_ ?_)
    (fun process => ?_) fun process _ => ?_
  · intro w from_ path same
    rw [started_decompress] at same
    cases same
  · rintro w ⟨asked,stream,whole,found,path⟩
    refine ⟨⟨asked,stream,whole,?_,path⟩,?_⟩
    · exact (List.getElem?_append_left (List.getElem?_eq_some_iff.mp found).1).trans found
    · rw [started_decompress]
      exact List.getElem?_concat_length
  · refine yields_idle (stable_own fun _ _ drift => drift_extracts drift) ?_
    exact avoids_bind (inside_ask rfl) fun _ => avoids_bind (inside_ask rfl) fun _ =>
      avoids_bind (inside_ask rfl) fun _ => trivial
  · refine yields_ask (stable_own fun _ _ drift => drift_extracts drift) (fun _ _ _ => trivial) ?_
    rintro w raw happened code inv extracts _ rfl
    exact arrived_settle inv extracts

theorem yields_createTemporaryDir {L : World δ → Prop} (stable : (contract storage).Stable u L) (dirPrefix : String) :
    Yields app storage u (createTemporaryDir (manager app storage u) dirPrefix) L
      (fun dir w => Under (mysqlTemp (substrate app u)) dir.toList ∧ L w) := by
  refine Contract.yields_bind (yields_idle stable (inside_ask rfl)) fun suffix => ?_
  refine Contract.yields_bind (yields_idle stable (inside_ask rfl)) fun _ =>
    Contract.yields_pure fun _ _ holds => ⟨?_,holds⟩
  have child := FileTrees.under_child '/' (mysqlTemp (substrate app u)).toList (dirPrefix ++ "_" ++ suffix).toList
  simpa [Under,manager] using child

/-- The download from the bucket into a temporary directory. -/
theorem yields_downloadBackup (id : String) :
    Yields app storage u (downloadBackup (manager app storage u) id) (fun w : World δ => (w.host u).asked = id)
      (fun r w => Under (mysqlTemp (substrate app u)) r.2.toList ∧
        Downloaded storage false r.2 w.store (w.host u)) := by
  refine Contract.yields_bind (yields_idle stable_asked (inside_ask rfl)) fun cores => ?_
  refine Contract.yields_bind (yields_idle stable_asked (idle_createTemporaryCa _)) fun caChainPath => ?_
  refine Contract.yields_bind (yields_createTemporaryDir stable_asked _) fun dir =>
    Contract.outline_assuming fun under => ?_
  cases storage with
  | none => exact Contract.yields_raise
  | some storage =>
    have found : getStorage (manager app (some storage) u) = pure storage := rfl
    rw [found,pure_eq,bind_eq,handle_ret]
    refine Contract.yields_bind (M := fun _ w => Downloaded (some storage) false dir w.store (w.host u))
      (yields_executeAsync (M := fun process _ w => Arrived (some storage) dir process w.store (w.host u))
        (yields_startProcess (P := fun h => h.asked = id) (S := Downloads (some storage) id) ?_ ?_ ?_)
        (fun process => yields_decompress id dir cores process) fun process _ => ?_) fun output => ?_
    · exact fun _ _ drift asked => drift.restore.asked.trans asked
    · intro w from_ path same
      erw [started_download] at same
      cases same
    · intro w asked
      refine ⟨asked,w.store.read (storage.bucketPath ++ "/" ++ id),false,?_,rfl⟩
      erw [started_download]
      exact List.getElem?_concat_length
    · refine yields_ask stable_arrived (fun _ _ _ => trivial) ?_
      rintro w raw happened code _ arrived exits rfl
      exact downloaded_settle _ arrived exits
    · cases output with
      | none => exact Contract.yields_raise
      | some text => exact Contract.yields_pure fun _ _ downloaded => ⟨under,downloaded⟩

/-! ### The data -/

theorem host_sync (w : World δ) (command : Command) (text : String) (happened : Bool) :
    (w.effect app u (.executeSync command) (.ok text) happened).host u =
      (w.host u).sync (substrate app u) true command := by
  show (w.setHost u _).host u = _
  exact setHost_same w u _

theorem yields_sync {command : Command} {D : Store δ → Host δ → Prop} (stable : (contract storage).Stable u L)
    (stopped : ∀ w, L w → touches (substrate app u) command = true → (w.host u).running = false)
    (post : ∀ w, Inv storage w → L w → D w.store ((w.host u).sync (substrate app u) true command)) :
    Yields app storage u (ask (.executeSync command)) L (fun _ w => D w.store (w.host u)) := by
  refine yields_ask stable (fun w _ holds => stopped w holds) fun w raw happened text inv holds _ => ?_
  rw [host_sync]
  exact post w inv holds

theorem yields_shell {command : Command} {D : Store δ → Host δ → Prop}
    (stable : (contract storage).Stable u L)
    (stopped : ∀ w, L w → touches (substrate app u) command = true → (w.host u).running = false)
    (post : ∀ w, L w → D w.store ((w.host u).sync (substrate app u) true command)) :
    Yields app storage u (ServerService.shell command) L (fun _ w => D w.store (w.host u)) :=
  Contract.yields_bind (yields_sync stable stopped fun w _ holds => post w holds) fun _ =>
    Contract.yields_pure fun _ _ holds => holds

theorem sync_restore (s : Substrate) (h : Host δ) (command : Command) : SameRestore h (h.sync s true command) := by
  rw [sync_frame]
  exact ⟨rfl,rfl,rfl⟩

/-- A command that spares the directory keeps what is known of it. -/
theorem halted_sync {store : Store δ} {s : Substrate} {h : Host δ} {dir : String} {command : Command}
    (spares : (h.sync s true command).directories dir.toList = h.directories dir.toList)
    (halted : Halted storage dir store h) : Halted storage dir store (h.sync s true command) := by
  refine ⟨downloaded_kept (sync_restore s h command) spares halted.1,?_⟩
  rw [sync_frame]
  exact halted.2

theorem yields_prepareBackup (dir : String) (poolSize : Int) :
    Yields app storage u (prepareBackup (manager app storage u) dir poolSize)
      (fun w : World δ => Downloaded storage false dir w.store (w.host u))
      (fun _ w => Downloaded storage true dir w.store (w.host u)) := by
  refine yields_sync (D := Downloaded storage true dir) stable_downloaded (fun _ _ touched => ?_) ?_
  · simp [touches] at touched
  rintro w inv ⟨stream,found,path,wanted⟩
  have same := sync_restore (substrate app u) (w.host u)
    (.execute (binary (substrate app u) "xtrabackup" :: prepareArgs (substrate app u) dir poolSize))
  refine ⟨stream,?_,path.trans (source_same same).symm,fun unreplaced => ?_⟩
  · have target : dir.toList ∈ optionValues "--target-dir=" _ :=
      (RestoreSafety.targets_prepare (substrate app u) dir poolSize).symm ▸ List.mem_singleton_self _
    rw [Host.sync,if_pos (by simp)]
    exact (if_pos (List.contains_iff_mem.mpr target)).trans (by rw [found]; rfl)
  · exact (wanted ((unreplaced_same same).mp unreplaced)).trans same.wanted.symm

/-- The temporary directory is beside those of the server. -/
theorem temp_spared {s : Substrate} {dir : String} (under : Under (mysqlTemp s) dir.toList) :
    ¬ Under (mysqlData s) dir.toList ∧ ¬ Under (mysqlLogs s) dir.toList := by
  have apart := RestoreSafety.temp_apart s under
  exact ⟨fun data => apart (.inl (.inr data)),fun logs => apart (.inr (.inr logs))⟩

theorem yields_resetDataDir {dir : String} (under : Under (mysqlTemp (substrate app u)) dir.toList) :
    Yields app storage u (resetDataDir (manager app storage u))
      (fun w : World δ => Halted storage dir w.store (w.host u))
      (fun _ w => Cleared storage dir w.store (w.host u)) := by
  refine yields_shell (D := Cleared storage dir) stable_halted (fun _ halted _ => halted.2) fun w halted =>
    ⟨halted_sync ?_ halted,?_⟩
  · simp [Host.sync,manager,(temp_spared under).1]
  · simp [Host.sync,Host.cleared,manager]

theorem yields_resetLogsDir {dir : String} (under : Under (mysqlTemp (substrate app u)) dir.toList) :
    Yields app storage u (resetLogsDir (manager app storage u))
      (fun w : World δ => Cleared storage dir w.store (w.host u))
      (fun _ w => Cleared storage dir w.store (w.host u)) := by
  refine yields_shell (D := Cleared storage dir) stable_cleared (fun _ cleared _ => cleared.1.2) fun w cleared =>
    ⟨halted_sync ?_ cleared.1,?_⟩
  · simp [Host.sync,manager,(temp_spared under).2]
  · have apart : mysqlLogs (substrate app u) ≠ mysqlData (substrate app u) := by cases substrate app u <;> decide
    simp [Host.sync,Host.cleared,manager,apart,cleared.2]

/-- What is moved back into the empty directories is all that was under the path. -/
theorem yields_restoreBackup (dir : String) :
    Yields app storage u (restoreBackup (manager app storage u) dir)
      (fun w : World δ => Cleared storage dir w.store (w.host u))
      (fun _ w => MovedBack storage w.store (w.host u)) := by
  refine yields_sync (D := MovedBack storage) stable_cleared (fun _ cleared _ => cleared.1.2) fun w inv cleared => ?_
  obtain ⟨⟨⟨stream,found,path,wanted⟩,stopped⟩,empty⟩ := cleared
  have moved : ((w.host u).sync (substrate app u) true (.execute (restoreArgs (substrate app u) dir))).data =
      stream.content := by
    rw [Host.sync,if_neg (restore_prepared dir),if_pos (restore_moves dir)]
    simp only [targets_restore,Host.movedBack,empty,found,if_true]
  have stored := (inv.good u).extracted dir.toList stream true found
  have restored : Restored storage w.store (w.host u) stream.content := by
    refine ⟨?_,fun unreplaced data asked => ?_⟩
    · unfold Stream.content
      split
      · rename_i data has
        exact .inl ⟨data,rfl,path ▸ stored data has⟩
      · exact .inr (congrArg Data.fragment path)
    · rw [Stream.content,wanted unreplaced,asked]
  refine ⟨?_,?_⟩
  · rw [sync_frame]
    exact stopped
  · exact moved.symm ▸ restored_same (sync_restore _ _ _) restored

theorem yields_resetTempDir :
    Yields app storage u (resetTempDir (manager app storage u))
      (fun w : World δ => MovedBack storage w.store (w.host u)) (fun _ w => MovedBack storage w.store (w.host u)) := by
  refine yields_shell (D := MovedBack storage) stable_movedBack (fun _ moved _ => moved.1) fun w moved => ?_
  have spares : touches (substrate app u) (.deleteContents (mysqlTemp (substrate app u))) = false :=
    decide_eq_false (not_or.mpr (temp_apart _))
  refine ⟨?_,?_⟩
  · rw [sync_frame]
    exact moved.1
  · exact (sync_data spares).symm ▸ restored_same (sync_restore _ _ _) moved.2

theorem yields_replaceData {dir : String} (under : Under (mysqlTemp (substrate app u)) dir.toList) :
    Yields app storage u (replaceData (manager app storage u) dir)
      (fun w : World δ => Halted storage dir w.store (w.host u))
      (fun r w => ∀ a, r = some a → MovedBack storage w.store (w.host u)) := by
  refine yields_reporting (Contract.yields_bind (yields_resetDataDir under) fun _ => ?_)
  refine Contract.yields_bind (yields_resetLogsDir under) fun _ => ?_
  exact Contract.yields_bind (yields_restoreBackup dir) fun _ => yields_resetTempDir

/-! ### The server -/

/-- A call that ends the server. -/
theorem yields_halt {c : Call} {dir : String} (allowed : ∀ w : World δ, Allowed app storage w u c)
    (halts : ∀ (w : World δ) a happened,
      w.effect app u c (.ok a) happened = w.setHost u { w.host u with running := false }) :
    Yields app storage u (ask c) (fun w : World δ => Downloaded storage true dir w.store (w.host u))
      (fun _ w => Halted storage dir w.store (w.host u)) := by
  refine yields_ask stable_downloaded (fun w _ _ => allowed w) ?_
  intro w raw happened a _ downloaded _
  rw [halts,setHost_same]
  exact ⟨downloaded_kept ⟨rfl,rfl,rfl⟩ rfl downloaded,rfl⟩

theorem yields_stop (s : Substrate) (dir : String) :
    Yields app storage u (ServerService.stop s) (fun w : World δ => Downloaded storage true dir w.store (w.host u))
      (fun _ w => Halted storage dir w.store (w.host u)) := by
  cases s with
  | vm =>
    refine Contract.yields_bind (yields_idle stable_downloaded (inside_ask rfl)) fun present => ?_
    refine Contract.yields_ite _ (fun _ => ?_) fun _ => Contract.yields_raise
    exact yields_halt (fun _ => trivial) fun _ _ _ => rfl
  | k8s =>
    refine Contract.yields_bind (yields_idle stable_downloaded (inside_ask rfl)) fun _ => ?_
    exact yields_halt (fun _ => trivial) fun _ _ _ => rfl

/-- A call that starts the server with the data that was moved back. -/
theorem yields_launch {c : Call}
    (allowed : ∀ w : World δ, Restored storage w.store (w.host u) (w.host u).data → Allowed app storage w u c)
    (launches : ∀ (w : World δ) a happened, (w.effect app u c (.ok a) happened).host u = (w.host u).launch) :
    Yields app storage u (ask c) (fun w : World δ => MovedBack storage w.store (w.host u))
      (fun _ w => (w.host u).launched.isSome = true) := by
  refine yields_ask stable_movedBack (fun w _ moved => allowed w moved.2) ?_
  intro w raw happened a _ _ _
  rw [launches]
  rfl

theorem yields_start (s : Substrate) :
    Yields app storage u (ServerService.start s) (fun w : World δ => MovedBack storage w.store (w.host u))
      (fun _ w => (w.host u).launched.isSome = true) := by
  have waits : Yields app storage u (ask (.waitForConnection ServerService.port))
      (fun w : World δ => (w.host u).launched.isSome = true) (fun _ w => (w.host u).launched.isSome = true) :=
    yields_idle stable_launched (inside_ask rfl)
  cases s with
  | vm =>
    refine Contract.yields_bind (yields_idle stable_movedBack (inside_ask rfl)) fun present => ?_
    refine Contract.yields_ite _ (fun _ => ?_) fun _ => Contract.yields_raise
    exact Contract.yields_bind (yields_launch (fun _ => id) fun w _ _ => setHost_same w u _) fun _ => waits
  | k8s =>
    refine Contract.yields_bind (yields_idle stable_movedBack (inside_ask rfl)) fun _ => ?_
    exact Contract.yields_bind (yields_launch (fun _ => id) fun w _ _ => setHost_same w u _) fun _ => waits

/-! ### The action -/

theorem yields_restoreFrom {dir : String} (under : Under (mysqlTemp (substrate app u)) dir.toList) :
    Yields app storage u (restoreFrom (app.charm u) (manager app storage u) dir)
      (fun w : World δ => Downloaded storage true dir w.store (w.host u)) (fun _ _ => True) := by
  refine Contract.yields_bind (yields_idle stable_downloaded (idle_quiet (quiet_setUnitStatus _))) fun _ => ?_
  refine Contract.yields_bind (yields_stop _ dir) fun _ => ?_
  refine Contract.yields_bind (yields_replaceData under) fun replaced => ?_
  cases replaced with
  | none => exact yields_end trivial
  | some done =>
    refine Contract.yields_bind (Contract.yields_pre (yields_start _) fun _ _ owed => owed done rfl) fun _ => ?_
    refine Contract.yields_bind (yields_idle stable_launched (idle_quiet quiet_buildUnitStatus)) fun status => ?_
    refine Contract.yields_bind (yields_idle stable_launched (idle_quiet (quiet_setUnitStatus _))) fun _ => ?_
    refine Contract.yields_bind (yields_idle stable_launched (idle_reporting (idle_recreateCluster _)))
      fun recreated => ?_
    cases recreated with
    | none => exact yields_end trivial
    | some _ => exact yields_ask stable_launched (fun _ _ launched _ => launched) fun _ _ _ _ _ _ _ => trivial

theorem yields_fetchBackup (id : String) (bufferPool : Int) :
    Yields app storage u (fetchBackup (manager app storage u) id bufferPool)
      (fun w : World δ => (w.host u).asked = id)
      (fun r w => ∀ dir, r = some dir →
        Under (mysqlTemp (substrate app u)) dir.toList ∧ Downloaded storage true dir w.store (w.host u)) := by
  refine yields_reporting ?_
  refine Contract.yields_bind (yields_idle stable_asked (idle_quiet (quiet_setUnitStatus _))) fun _ => ?_
  refine Contract.yields_bind (yields_downloadBackup id) fun downloaded => ?_
  refine Contract.outline_assuming fun under => Contract.yields_bind (yields_prepareBackup _ bufferPool) fun _ => ?_
  exact Contract.yields_pure fun _ _ prepared => ⟨under,prepared⟩

theorem yields_restoreById (id : String) :
    Yields app storage u (restoreById (app.charm u) (manager app storage u) id)
      (fun w : World δ => (w.host u).asked = id) (fun _ _ => True) := by
  unfold restoreById
  refine Contract.yields_ite _ (fun _ => yields_end (inside_ask rfl)) fun _ => ?_
  refine Contract.yields_bind (yields_idle stable_asked (idle_checkExists _ _)) fun found => ?_
  cases found with
  | none => exact yields_end trivial
  | some _ =>
    refine Contract.yields_bind (yields_idle stable_asked (inside_ask rfl)) fun memory => ?_
    refine Contract.yields_bind (yields_fetchBackup _ _) fun fetched => ?_
    cases fetched with
    | none => exact yields_end trivial
    | some dir => exact Contract.yields_pre (Contract.outline_assuming yields_restoreFrom) fun _ _ owed => owed dir rfl

theorem yields_onRestoreBackup (given : String) :
    Yields app storage u (onRestoreBackup (app.charm u) (manager app storage u) given)
      (fun w : World δ => (w.host u).asked = cleanId given) (fun _ _ => True) := by
  unfold onRestoreBackup
  generalize cleanId given = id
  refine Contract.yields_bind (yields_idle stable_asked (idle_restoreAllowed _)) fun allowed => ?_
  exact Contract.yields_ite _ (fun _ => yields_restoreById _) fun _ => yields_end trivial

end

/-! ### Runs -/

section
variable {app : Application} {storage : Option BackupStorage}

theorem fulfils : (contract storage).Fulfils (system app storage)
    (duties : Contract.Duties UnitId Job Exn Unit (World δ)) where
  begins w u job w' inv begun := by
    cases begun
    refine ⟨begins inv job,⟨fun v other => setHost_other w _ other,grows_refl _⟩,?_⟩
    rintro given rfl
    show ((w.setHost u _).host u).asked = _
    rw [setHost_same]
  finishes w u job r inv _ := ⟨inv,fun _ _ => rfl,grows_refl _⟩
  acts w a inv _ := inv_act inv a
  jobs u job := by
    cases job with
    | create force => exact Contract.outline_pre (outline_onCreateBackup force) fun _ _ _ => trivial
    | restore given =>
      refine Contract.outline_pre (Contract.outline_post (yields_onRestoreBackup given) fun _ _ _ _ => trivial) ?_
      exact fun _ _ starts => starts given rfl
  lasts u _ _ := (contract storage).stable_const u True

theorem inv_fresh (data : UnitId → δ) : Inv storage (fresh data) where
  stored _ _ found := by cases found
  named _ member := by cases member
  had _ member := by cases member
  good u := ⟨Nat.le_refl _,fun _ => rfl,nofun,nofun,nofun,nofun,fun _ => .inl ⟨data u,List.mem_singleton_self _,rfl⟩⟩

end

/-- One unit. -/
def alone : Application := ⟨[0],fun u => { backupUnit with unit := u },fun _ => rfl⟩

/-- A job whose calls succeed, while its first process does what it may. -/
def attended (first : List (Act Nat)) (job : Job) : List (Label UnitId Job Call Reply Exn (Act Nat)) :=
  let turn := .call 0 (fun c => BackupNames.replies.reply c 0) false :: first.map .act
  .start 0 job :: (List.replicate 50 turn).flatten ++ [.stop 0]

/-- The data changes after the backup, before the restore. -/
def returning (first : List (Act Nat)) : Host Nat :=
  ((system alone backupManager.storage).run (idle (fresh fun _ => 7))
    (attended [.copy 0 0] (.create false) ++ [.act (.write 0 8)] ++
      attended first (.restore "1970-01-01T00:00:00Z"))).world.host 0

example : ((returning [.deliver 0 0]).completed,(returning [.deliver 0 0]).data) = (true,.holds 7) := by decide +kernel

-- the download breaks off, and the server is left alone
example : ((returning []).launched,(returning []).data,(returning []).running) = (none,.holds 8,true) := by
  decide +kernel

end MysqlOperators.BackupRoundTrip
