import MysqlOperators.BackupReport
import MysqlOperators.FileTrees
import MysqlOperators.Guards
import MysqlOperators.Restore
import MysqlOperators.Wildcards

/-!
What restoring a backup does to the files of the unit. The commands of the action write
where their options say, and `find` deletes what its tests leave of a directory; a command
that fails may have done a part of it.
-/
namespace MysqlOperators.RestoreSafety
open MysqlOperators.Program MysqlOperators.Program.Prog MysqlOperators.External MysqlOperators.Scripted
open MysqlOperators.Workload MysqlOperators.Helpers MysqlOperators.Backup MysqlOperators.Restore
open MysqlOperators.Quiet MysqlOperators.BackupReport MysqlOperators.FileTrees MysqlOperators.Guards
open MysqlOperators.Wildcards (Piece Matches)

/-! ### The files -/

inductive Entry where
  | directory
  | file (text : String)
deriving DecidableEq, Repr

abbrev Files := Tree Char Entry

def Under (directory : String) (path : List Char) : Prop := FileTrees.Under '/' directory.toList path
def Within (directory path : List Char) : Prop := FileTrees.Within '/' directory path

instance (directory : String) (path : List Char) : Decidable (Under directory path) :=
  inferInstanceAs (Decidable (FileTrees.Under ..))
instance (directory path : List Char) : Decidable (Within directory path) :=
  inferInstanceAs (Decidable (FileTrees.Within ..))

/-- The values of an option among the arguments of a command, where the option is given
    with its equals sign. -/
def optionValues (option : String) (args : List String) : List (List Char) :=
  args.filterMap fun arg => arg.toList.dropPrefix? option.toList

/-- A pattern of `-path`, which has no brackets here. -/
def pathPattern (pattern : String) : List (Piece Char) :=
  pattern.toList.map fun c => if c = '*' then .many else if c = '?' then .one else .exactly c

/-- The directories into which `xbstream` extracts. -/
def extracted (s : Substrate) : List String → List (List Char)
  | [] => []
  | tool :: args => if tool = binary s "xbstream" then optionValues "--directory=" args else []

/-- The host of the unit: its files, the directories that were given to a process, and
    whether a backup has been prepared and restored. -/
structure Host where
  files : Files
  given : List (List Char)
  prepared : Bool
  restored : Bool
  calls : Nat

section
variable (s : Substrate)

/-- The directories of the server. -/
def ServerFiles (path : List Char) : Prop :=
  Within (mysqlData s).toList path ∨ Within (mysqlLogs s).toList path ∨ Within (mysqlTemp s).toList path

instance (path : List Char) : Decidable (ServerFiles s path) := inferInstanceAs (Decidable (_ ∨ _ ∨ _))

/-- Where a call may change files. What the server writes by itself is left out, but for
    its start and its end. -/
def reach (h : Host) (c : Call) (path : List Char) : Bool :=
  match c with
  | .makeDirectory name | .writeText name _ | .unlink name => path = name.toList
  | .createTemporary _ => Under "/tmp" path
  | .startProcess command _ _ => ∃ directory ∈ extracted s command, Within directory path
  | .readOutput _ | .closeOutput _ | .waitProcess _ => ∃ directory ∈ h.given, Within directory path
  | .executeSync (.execute args) =>
    "--move-back" ∈ args ∨ ∃ directory ∈ optionValues "--target-dir=" args, Within directory path
  | .executeSync (.deleteContents directory) => Under directory path
  | .executeSync (.removeMatching directory pattern) => Under directory path ∧ Matches (pathPattern pattern) path
  | .executeSync (.removeOthers directory pattern) => Under directory path ∧ ¬ Matches (pathPattern pattern) path
  | .executeSync (.initializeServer _) | .snapStart _ | .snapStop _ | .containerStart _ | .containerStop _ =>
    ServerFiles s path
  | _ => false

/-- What a call leaves where it may change files, given what it leaves if that is not
    determined. -/
def leave (left : Files) (h : Host) (c : Call) (ok : Bool) (path : List Char) : Option Entry :=
  match c with
  | .makeDirectory _ => if ok then some ((h.files path).getD .directory) else left path
  | .writeText _ text => if ok then some (.file text) else left path
  | .unlink _ => if ok then none else left path
  | .executeSync (.deleteContents _) | .executeSync (.removeMatching _ _) | .executeSync (.removeOthers _ _) =>
    if ok ∨ left path = none then none else h.files path
  | _ => left path

/-- `xtrabackup` with an option. -/
def runsXtrabackup (option : String) : Call → Bool
  | .executeSync (.execute (tool :: args)) => tool = binary s "xtrabackup" ∧ option ∈ args
  | _ => false

/-- Temporary files are in `/tmp`, and a random suffix has four small letters. -/
def answer (_ : Host) : (c : Call) → Except Exn (Reply c) → Except Exn (Reply c)
  | .createTemporary _,.ok name => .ok ("/tmp/" ++ name)
  | .randomSuffix,.ok suffix =>
    if suffix.toList.length = 4 ∧ suffix.toList.all Char.isLower then .ok suffix else .ok "aaaa"
  | _,r => r

def effect (left : Nat → Files) (h : Host) (c : Call) (r : Except Exn (Reply c)) (_ : Bool) : Host where
  files path := if reach s h c path then leave (left h.calls) h c r.isOk path else h.files path
  given := match c with
    | .startProcess command _ _ => h.given ++ extracted s command
    | _ => h.given
  prepared := h.prepared || (r.isOk && runsXtrabackup s "--prepare" c)
  restored := h.restored || (r.isOk && runsXtrabackup s "--move-back" c)
  calls := h.calls + 1

/-- The rules of a host, with what the calls leave where that is not determined. -/
def hostRules (left : Nat → Files) : Rules Host Call Reply Exn := ⟨answer,effect s left⟩

/-- A host on which the action begins. -/
def Host.initial (files : Files) : Host := ⟨files,[],false,false,0⟩

/-! ### What is promised -/

/-- The server is told to stop. -/
def stops : Call → Bool
  | .snapStop _ | .containerStop _ => true
  | _ => false

/-- A directory is reset. -/
def resets : Call → Bool
  | .executeSync (.deleteContents _) | .executeSync (.removeMatching _ _) | .executeSync (.removeOthers _ _) => true
  | _ => false

/-- Where the data and the logs of the server are. -/
def Kept (path : List Char) : Prop := Within (mysqlData s).toList path ∨ Within (mysqlLogs s).toList path

/-- Until a backup is prepared, a call neither stops the server nor leaves the data or the
    logs changed. Until one is restored, a reset leaves the directories alone that a
    process has filled. -/
structure Sound (left : Nat → Files) (script : Script Call Reply Exn) (files : Files) (scene : Scene Host Call)
    (c : Call) : Prop where
  prepares : scene.world.prepared = false → stops c = false ∧
    ∀ path, Kept s path → (respond (hostRules s left) script scene c).2.world.files path = files path
  restores : scene.world.restored = false → resets c = true → ∀ directory ∈ scene.world.given, ∀ path,
    Within directory path →
      (respond (hostRules s left) script scene c).2.world.files path = scene.world.files path

/-- A part of the action whose calls are sound. -/
abbrev SoundPart (left : Nat → Files) (script : Script Call Reply Exn) (files : Files) {α : Type}
    (Pre : Scene Host Call → Prop) (p : Hook α) (Post : Except Exn α → Scene Host Call → Prop) : Prop :=
  Guarded (respond (hostRules s left) script) (Sound s left script files) Pre p Post

/-! ### Directories -/

/-- The directory that the directories of the server are in. -/
def home : List Char := (commonDir s).toList ++ "/var/lib/mysql".toList

theorem mysqlData_eq : (mysqlData s).toList = home s ++ '/' :: "data".toList := by simp [mysqlData,home]
theorem mysqlLogs_eq : (mysqlLogs s).toList = home s ++ '/' :: "logs".toList := by simp [mysqlLogs,home]
theorem mysqlTemp_eq : (mysqlTemp s).toList = home s ++ '/' :: "temp".toList := by simp [mysqlTemp,home]

/-- The temporary directory is beside those of the data and the logs. -/
theorem temp_apart {path : List Char} (under : Under (mysqlTemp s) path) : ¬ Kept s path := by
  rw [Under,mysqlTemp_eq] at under
  rintro (data | logs)
  · rw [mysqlData_eq] at data
    exact not_within_sibling (by decide) (by decide) (by decide) under data
  · rw [mysqlLogs_eq] at logs
    exact not_within_sibling (by decide) (by decide) (by decide) under logs

/-- The temporary files of the charm are elsewhere. -/
theorem tmp_apart {path : List Char} (under : Under "/tmp" path) : ¬ Kept s path := by
  have beside : ∀ name : List Char, name ∈ ["data".toList,"logs".toList] →
      Within (home s ++ '/' :: name) path → FileTrees.Within '/' ([] ++ '/' :: "var".toList) path := by
    intro name member within
    have start : ([] ++ '/' :: "var".toList : List Char) ++ ['/'] <+: home s ++ '/' :: name := by
      cases s <;> exact ⟨_,rfl⟩
    exact .inr (under_of_within start within)
  have start : FileTrees.Under '/' ([] ++ '/' :: "tmp".toList) path := under
  have other : ¬ FileTrees.Within '/' ([] ++ '/' :: "var".toList) path :=
    not_within_sibling (by decide) (by decide) (by decide) start
  rintro (data | logs)
  · rw [mysqlData_eq] at data
    exact other (beside _ (by simp) data)
  · rw [mysqlLogs_eq] at logs
    exact other (beside _ (by simp) logs)

/-! ### Calls -/

/-- The processes were given directories in the temporary directory. -/
def Beside (scene : Scene Host Call) : Prop := ∀ directory ∈ scene.world.given, Under (mysqlTemp s) directory

/-- Calls that start a process elsewhere. -/
def strays : Call → Prop
  | .startProcess command _ _ => ∃ directory ∈ extracted s command, ¬ Under (mysqlTemp s) directory
  | _ => False

/-- Calls that stop the server, start it, or may change its data and logs. -/
def harmful : Call → Prop
  | .snapStart _ | .snapStop _ | .containerStart _ | .containerStop _ => True
  | .makeDirectory name | .writeText name _ => ¬ Under (mysqlTemp s) name.toList
  | .unlink name => ¬ Under "/tmp" name.toList
  | .startProcess command environ stdin => strays s (.startProcess command environ stdin)
  | .executeSync (.execute args) =>
    "--move-back" ∈ args ∨ ∃ directory ∈ optionValues "--target-dir=" args, ¬ Under (mysqlTemp s) directory
  | .executeSync (.changeOwner _ _) | .executeSync (.findDataFiles _) => False
  | .executeSync _ => True
  | _ => False

/-- The data and the logs are as they were. -/
structure Unharmed (files : Files) (scene : Scene Host Call) : Prop where
  kept : ∀ path, Kept s path → scene.world.files path = files path
  beside : Beside s scene

variable {s} {left : Nat → Files} {script : Script Call Reply Exn} {files : Files}

theorem not_kept_within {directory path : List Char} (under : Under (mysqlTemp s) directory)
    (within : Within directory path) : ¬ Kept s path := temp_apart s (under_of_within under within)

/-- What is not harmful reaches neither the data nor the logs. -/
theorem reach_kept {scene : Scene Host Call} (beside : Beside s scene) {c : Call} (harmless : ¬ harmful s c)
    {path : List Char} (kept : Kept s path) : reach s scene.world c path = false := by
  cases c with
  | makeDirectory name | writeText name text =>
    have inside : Under (mysqlTemp s) name.toList := not_not.mp harmless
    refine decide_eq_false fun same => temp_apart s ?_ kept
    rw [same]
    exact inside
  | unlink name =>
    have inside : Under "/tmp" name.toList := not_not.mp harmless
    refine decide_eq_false fun same => tmp_apart s ?_ kept
    rw [same]
    exact inside
  | createTemporary text => exact decide_eq_false fun under => tmp_apart s under kept
  | startProcess command environ stdin =>
    refine decide_eq_false ?_
    rintro ⟨directory,member,within⟩
    have inside : Under (mysqlTemp s) directory := by
      by_contra outside
      exact harmless ⟨directory,member,outside⟩
    exact not_kept_within inside within kept
  | readOutput | closeOutput | waitProcess =>
    refine decide_eq_false ?_
    rintro ⟨directory,member,within⟩
    exact not_kept_within (beside directory member) within kept
  | executeSync command =>
    cases command with
    | execute args =>
      obtain ⟨stays,inside⟩ := not_or.mp harmless
      refine decide_eq_false ?_
      rintro (moves | ⟨directory,member,within⟩)
      · exact stays moves
      · have under : Under (mysqlTemp s) directory := by
          by_contra outside
          exact inside ⟨directory,member,outside⟩
        exact not_kept_within under within kept
    | changeOwner | findDataFiles => rfl
    | deleteContents | removeMatching | removeOthers | initializeServer => exact absurd trivial harmless
  | snapStart | snapStop | containerStart | containerStop => exact absurd trivial harmless
  | _ => rfl

theorem beside_respond {scene : Scene Host Call} (beside : Beside s scene) {c : Call} (near : ¬ strays s c) :
    Beside s (respond (hostRules s left) script scene c).2 := by
  cases c with
  | startProcess command environ stdin =>
    intro directory member
    rcases List.mem_append.mp member with before | added
    · exact beside directory before
    · by_contra outside
      exact near ⟨directory,added,outside⟩
  | _ => exact beside

theorem files_respond {scene : Scene Host Call} {c : Call} {path : List Char}
    (beyond : reach s scene.world c path = false) :
    (respond (hostRules s left) script scene c).2.world.files path = scene.world.files path := by
  show (if reach s scene.world c path then _ else _) = _
  rw [beyond]
  rfl

/-- The backup is prepared once `xtrabackup` has returned, and stays so. -/
theorem prepared_respond {scene : Scene Host Call} {c : Call} {a : Reply c}
    (prepares : runsXtrabackup s "--prepare" c = true)
    (answered : (respond (hostRules s left) script scene c).1 = .ok a) :
    (respond (hostRules s left) script scene c).2.world.prepared = true := by
  show (scene.world.prepared || ((respond (hostRules s left) script scene c).1.isOk && _)) = true
  simp [answered,prepares,Except.isOk,Except.toBool]

theorem restored_respond {scene : Scene Host Call} {c : Call} {a : Reply c}
    (restores : runsXtrabackup s "--move-back" c = true)
    (answered : (respond (hostRules s left) script scene c).1 = .ok a) :
    (respond (hostRules s left) script scene c).2.world.restored = true := by
  show (scene.world.restored || ((respond (hostRules s left) script scene c).1.isOk && _)) = true
  simp [answered,restores,Except.isOk,Except.toBool]

theorem prepared_stays {scene : Scene Host Call} (prepared : scene.world.prepared = true) (c : Call) :
    (respond (hostRules s left) script scene c).2.world.prepared = true := by
  show (scene.world.prepared || _) = true
  rw [prepared]
  rfl

theorem restored_stays {scene : Scene Host Call} (restored : scene.world.restored = true) (c : Call) :
    (respond (hostRules s left) script scene c).2.world.restored = true := by
  show (scene.world.restored || _) = true
  rw [restored]
  rfl

/-- Harmless calls are sound and leave everything unharmed. -/
theorem sound_harmless {scene : Scene Host Call} {c : Call} (harmless : ¬ harmful s c)
    (unharmed : Unharmed s files scene) :
    Sound s left script files scene c ∧ Unharmed s files (respond (hostRules s left) script scene c).2 := by
  have kept : ∀ path, Kept s path →
      (respond (hostRules s left) script scene c).2.world.files path = files path := by
    intro path inside
    rw [files_respond (reach_kept unharmed.beside harmless inside)]
    exact unharmed.kept path inside
  have near : ¬ strays s c := by
    intro stray
    cases c with
    | startProcess => exact harmless stray
    | _ => exact stray
  refine ⟨⟨fun _ => ⟨?_,kept⟩,fun _ reset => ?_⟩,⟨kept,beside_respond unharmed.beside near⟩⟩
  · cases c with
    | snapStop | containerStop => exact absurd trivial harmless
    | _ => rfl
  · cases c with
    | executeSync command =>
      cases command with
      | deleteContents | removeMatching | removeOthers => exact absurd trivial harmless
      | _ => cases reset
    | _ => cases reset

/-! ### Options -/

theorem start_ne {start value other : String} (differ : ¬ start.toList <+: other.toList) : start ++ value ≠ other := by
  rintro rfl
  exact differ ⟨value.toList,by simp⟩

/-- An argument for another option. -/
theorem option_other {option start value : String} (short : ¬ option.toList <+: start.toList)
    (long : ¬ start.toList <+: option.toList) : (start ++ value).toList.dropPrefix? option.toList = none := by
  rcases found : (start ++ value).toList.dropPrefix? option.toList with _ | rest
  · rfl
  · obtain ⟨before,same,equal⟩ := List.dropPrefix?_eq_some_iff.mp found
    obtain rfl : before = option.toList := by simpa using equal
    have starts : option.toList <+: start.toList ++ value.toList := ⟨rest,by rw [← same]; simp⟩
    rcases List.prefix_or_prefix_of_prefix starts (List.prefix_append start.toList value.toList) with first | second
    · exact absurd first short
    · exact absurd second long

theorem option_value (option value : String) :
    (option ++ value).toList.dropPrefix? option.toList = some value.toList := by
  rw [String.toList_append]
  exact List.dropPrefix?_append_of_beq _ (by simp)

theorem extracted_decompress (s : Substrate) (cores : Nat) (dir : String) :
    extracted s (decompressCommand s cores dir) = [dir.toList] := by
  have directory := option_value "--directory=" dir
  have parallel : ("--parallel=" ++ toString cores).toList.dropPrefix? "--directory=".toList = none :=
    option_other (by decide) (by decide)
  have decompress : "--decompress".toList.dropPrefix? "--directory=".toList = none := by decide
  have flag : "-x".toList.dropPrefix? "--directory=".toList = none := by decide
  simp only [extracted,decompressCommand,if_true,optionValues,List.filterMap_cons,List.filterMap_nil,decompress,flag,
    directory,parallel]

theorem extracted_download (s : Substrate) (cores : Nat) (args : List String) (backupPath : String) :
    extracted s (downloadCommand s cores args backupPath) = [] := by
  have other : binary s "xbcloud" ≠ binary s "xbstream" := by cases s <;> decide
  simp [extracted,downloadCommand,other]

/-- The arguments of `prepare_backup`. -/
def prepareArgs (s : Substrate) (backupPath : String) (poolSize : Int) : List String :=
  ["--prepare","--use-memory=" ++ toString poolSize,"--rollback-prepared-trx",
   "--xtrabackup-plugin-dir=" ++ backupPlugins s,"--target-dir=" ++ backupPath,"--no-version-check"]

theorem targets_prepare (s : Substrate) (backupPath : String) (poolSize : Int) :
    optionValues "--target-dir=" (binary s "xtrabackup" :: prepareArgs s backupPath poolSize) =
      [backupPath.toList] := by
  have target := option_value "--target-dir=" backupPath
  have tool : (binary s "xtrabackup").toList.dropPrefix? "--target-dir=".toList = none := by cases s <;> decide
  have pool : ("--use-memory=" ++ toString poolSize).toList.dropPrefix? "--target-dir=".toList = none :=
    option_other (by decide) (by decide)
  have plugins : ("--xtrabackup-plugin-dir=" ++ backupPlugins s).toList.dropPrefix? "--target-dir=".toList = none :=
    option_other (by decide) (by decide)
  have prepare : "--prepare".toList.dropPrefix? "--target-dir=".toList = none := by decide
  have rollback : "--rollback-prepared-trx".toList.dropPrefix? "--target-dir=".toList = none := by decide
  have version : "--no-version-check".toList.dropPrefix? "--target-dir=".toList = none := by decide
  simp only [optionValues,prepareArgs,List.filterMap_cons,List.filterMap_nil,tool,prepare,pool,rollback,plugins,target,
    version]

theorem prepare_stays (s : Substrate) (backupPath : String) (poolSize : Int) :
    "--move-back" ∉ binary s "xtrabackup" :: prepareArgs s backupPath poolSize := by
  have tool : binary s "xtrabackup" ≠ "--move-back" := by cases s <;> decide
  have pool (size : String) : "--move-back" ≠ "--use-memory=" ++ size := (start_ne (by decide)).symm
  have plugins : "--xtrabackup-plugin-dir=" ++ backupPlugins s ≠ "--move-back" := start_ne (by decide)
  have target : "--target-dir=" ++ backupPath ≠ "--move-back" := start_ne (by decide)
  simp [prepareArgs,tool.symm,pool,plugins.symm,target.symm]

/-! ### Until the backup is prepared -/

theorem harmful_loud {c : Call} (harms : harmful s c) : Loud c := by
  cases c <;> first | rfl | exact absurd harms id

theorem harmless_quiet {α : Type} {p : Hook α} (quiet : Avoids Loud p) : Avoids (harmful s) p :=
  avoids_mono (fun _ => harmful_loud) quiet

theorem harmless_skip (reason : String) : Avoids (harmful s) (Restore.skip reason) :=
  avoids_bind (avoids_ask id) fun _ => trivial

theorem harmless_restoreAllowed (charm : Charm) : Avoids (harmful s) (restoreAllowed charm) := by
  refine avoids_bind (avoids_ask id) fun related => avoids_ite _ (fun _ => ?_) (fun _ => harmless_skip _)
  refine avoids_bind (harmless_quiet (quiet_initialized charm)) fun ready => ?_
  refine avoids_ite _ (fun _ => ?_) (fun _ => harmless_skip _)
  refine avoids_bind (avoids_ask id) fun refreshing => avoids_ite _ (fun _ => harmless_skip _) fun _ => ?_
  exact avoids_bind (avoids_ask id) fun planned => avoids_ite _ (fun _ => harmless_skip _) (fun _ => trivial)

/-- A temporary directory of the manager is in the temporary directory of the server. -/
theorem returns_createTemporaryDir (m : BackupManager) (dirPrefix : String) :
    Returns (fun dir => Under (mysqlTemp m.substrate) dir.toList) (createTemporaryDir m dirPrefix) := by
  refine returns_bind_true fun suffix => returns_bind_true fun _ => ?_
  have child := under_child '/' (mysqlTemp m.substrate).toList (dirPrefix ++ "_" ++ suffix).toList
  show Under _ _
  simpa [Under] using child

theorem harmless_createTemporaryDir (m : BackupManager) (dirPrefix : String) :
    Avoids (harmful m.substrate) (createTemporaryDir m dirPrefix) := by
  refine avoids_bind (avoids_ask id) fun suffix => avoids_bind (avoids_ask ?_) fun _ => trivial
  have child := under_child '/' (mysqlTemp m.substrate).toList (dirPrefix ++ "_" ++ suffix).toList
  refine not_not.mpr ?_
  simpa [Under] using child

theorem harmless_createTemporaryCa (m : BackupManager) : Avoids (harmful m.substrate) (createTemporaryCa m) := by
  refine avoids_bind (avoids_getStorage m) fun storage => ?_
  split
  · trivial
  · refine avoids_bind_returns (harmless_createTemporaryDir m _) (returns_createTemporaryDir m _) fun dir under => ?_
    refine avoids_bind (avoids_ask (not_not.mpr ?_)) fun _ => trivial
    have child := under_child '/' dir.toList certsFileName.toList
    have inside := under_of_within under (.inr child)
    simpa [Under] using inside

theorem harmless_downloadBackup (m : BackupManager) (backupId : String) :
    Avoids (harmful m.substrate) (downloadBackup m backupId) := by
  refine avoids_bind (avoids_ask id) fun cores => avoids_bind (harmless_createTemporaryCa m) fun caChainPath => ?_
  refine avoids_bind_returns (harmless_createTemporaryDir m _) (returns_createTemporaryDir m _) fun dir under => ?_
  refine avoids_bind (avoids_getStorage m) fun storage => ?_
  refine avoids_bind (avoids_executeAsync ?_ (fun _ => id) fun download => ?_) fun output => ?_
  · rintro ⟨directory,member,_⟩
    rw [extracted_download] at member
    cases member
  · refine avoids_executeAsync ?_ (fun _ => id) fun decompress => ?_
    · rintro ⟨directory,member,outside⟩
      rw [extracted_decompress] at member
      obtain rfl := List.mem_singleton.mp member
      exact outside under
    · exact avoids_bind (avoids_ask id) fun _ => avoids_bind (avoids_ask id) fun _ =>
        avoids_bind (avoids_ask id) fun _ => trivial
  · split <;> trivial

theorem returns_downloadBackup (m : BackupManager) (backupId : String) :
    Returns (fun r => Under (mysqlTemp m.substrate) r.2.toList) (downloadBackup m backupId) := by
  refine returns_bind_true fun cores => returns_bind_true fun caChainPath => ?_
  refine returns_bind (returns_createTemporaryDir m _) fun dir under => returns_bind_true fun storage => ?_
  refine returns_bind_true fun output => ?_
  cases output with
  | some text => exact under
  | none => trivial

/-- What is reported as done has returned; a failure is reported by one more call. -/
theorem guarded_reporting {W α : Type} {respond : W → (c : Call) → Except Exn (Reply c) × W} {P : W → Call → Prop}
    {Pre Inv : W → Prop} {Done : α → W → Prop} {step : Hook α} {catches : Exn → Bool} {message : String}
    (first : Guarded respond P Pre step fun r w => Inv w ∧ ∀ a, r = .ok a → Done a w)
    (fails : ∀ text w, Inv w → P w (.fail text) ∧ Inv (respond w (.fail text)).2) :
    Guarded respond P Pre (reporting catches message step) fun r w => Inv w ∧ ∀ a, r = .ok (some a) → Done a w := by
  refine guarded_tryElse first (fun e => ?_) (fun a => guarded_ret fun w holds => ⟨holds.1,?_⟩) fun e w holds => ?_
  · have reports : Guarded respond P (fun w => Inv w ∧ ∀ a, Except.error e = .ok a → Done a w)
        (ask (.fail (message ++ ": " ++ e.text))) fun _ => Inv := guarded_perform fun w holds => fails _ w holds.1
    refine guarded_bind reports (fun _ => ?_) ?_
    · exact guarded_ret fun w holds => ⟨holds,nofun⟩
    · exact fun e w holds => ⟨holds,nofun⟩
  · rintro b same
    cases same
    exact holds.2 a rfl
  · exact ⟨holds.1,nofun⟩

section
variable (left : Nat → Files) (script : Script Call Reply Exn) (files : Files)

theorem guarded_harmless {α : Type} {p : Hook α} (avoids : Avoids (harmful s) p) :
    SoundPart s left script files (Unharmed s files) p
      fun _ => Unharmed s files :=
  guarded_frame (fun _ _ harmless unharmed => sound_harmless harmless unharmed) avoids

theorem fails_unharmed (text : String) (scene : Scene Host Call) (unharmed : Unharmed s files scene) :
    Sound s left script files scene (.fail text) ∧
      Unharmed s files (respond (hostRules s left) script scene (.fail text)).2 :=
  sound_harmless id unharmed

/-- A temporary file is not among the data and the logs. -/
theorem guarded_temporaryFile {α : Type} {contents : Option String} {body : Option String → Hook α}
    (inside : ∀ name, Avoids (harmful s) (body name)) :
    SoundPart s left script files (Unharmed s files)
      (temporaryFile contents body) fun _ => Unharmed s files := by
  unfold temporaryFile
  split
  · exact guarded_harmless left script files (inside none)
  · rename_i text _
    have creates : SoundPart s left script files (Unharmed s files)
        (ask (.createTemporary text))
        fun r w => Unharmed s files w ∧ ∀ name, r = .ok name → Under "/tmp" name.toList := by
      refine guarded_perform fun w before => ?_
      obtain ⟨sound,after⟩ : Sound s left script files w (.createTemporary text) ∧ _ := sound_harmless id before
      refine ⟨sound,after,fun name answered => ?_⟩
      simp only [respond,hostRules] at answered
      cases raw : script.reply (.createTemporary text) (w.log.count (.createTemporary text)) with
      | error e => simp [raw,answer] at answered
      | ok given =>
        simp only [raw,answer,Except.ok.injEq] at answered
        rw [← answered]
        exact ⟨given.toList,by simp⟩
    refine guarded_bind creates (fun name => ?_) fun e w holds => holds.1
    refine guarded_mono (guarded_assuming fun under => ?_) (fun w holds => ⟨holds.1,holds.2 name rfl⟩) fun _ _ => id
    exact guarded_finallyDo (guarded_harmless left script files (inside _)) fun r =>
      guarded_harmless left script files (avoids_ask (not_not.mpr under))

theorem guarded_checkExists (m : BackupManager) (backupId : String) :
    SoundPart m.substrate left script files (Unharmed m.substrate files) (checkExists m backupId)
      fun _ => Unharmed m.substrate files := by
  have harmless : Avoids (harmful m.substrate) (getStorage m) := avoids_getStorage m
  have checks (path : String) : SoundPart m.substrate left script files (Unharmed m.substrate files)
      (checkBackup m path) fun _ => Unharmed m.substrate files := by
    refine guarded_bind (guarded_harmless left script files harmless) (fun storage => ?_) fun _ _ => id
    refine guarded_temporaryFile left script files fun caChainFile => ?_
    exact avoids_bind (avoids_ask id) fun _ => avoids_ask id
  have reported : SoundPart m.substrate left script files (Unharmed m.substrate files) (checkExists m backupId)
      fun r w => Unharmed m.substrate files w ∧ ∀ u, r = .ok (some u) → True := by
    refine guarded_reporting ?_ (fails_unharmed left script files)
    refine guarded_bind (guarded_harmless left script files harmless) (fun storage => ?_) fun _ _ holds => ⟨holds,nofun⟩
    exact guarded_mono (checks _) (fun _ => id) fun _ _ holds => ⟨holds,fun _ _ => trivial⟩
  exact guarded_mono reported (fun _ => id) fun _ _ holds => holds.1

/-- A backup that is prepared is in a directory beside the data and the logs. -/
theorem guarded_prepareBackup (m : BackupManager) (backupPath : String) (poolSize : Int)
    (under : Under (mysqlTemp m.substrate) backupPath.toList) :
    SoundPart m.substrate left script files (Unharmed m.substrate files) (prepareBackup m backupPath poolSize)
      fun r w => Unharmed m.substrate files w ∧ ∀ output, r = .ok output → w.world.prepared = true := by
  refine guarded_perform fun w before => ?_
  have harmless : ¬ harmful m.substrate (.executeSync (.execute
      (binary m.substrate "xtrabackup" :: prepareArgs m.substrate backupPath poolSize))) := by
    rintro (moves | ⟨directory,member,outside⟩)
    · exact prepare_stays _ _ _ moves
    · rw [targets_prepare] at member
      obtain rfl := List.mem_singleton.mp member
      exact outside under
  obtain ⟨sound,after⟩ : Sound m.substrate left script files w (.executeSync (.execute
      (binary m.substrate "xtrabackup" :: prepareArgs m.substrate backupPath poolSize))) ∧ _ :=
    sound_harmless harmless before
  refine ⟨sound,after,fun output answered => ?_⟩
  exact prepared_respond (by simp [runsXtrabackup]) answered

theorem guarded_fetchBackup (m : BackupManager) (backupId : String) (bufferPool : Int) :
    SoundPart m.substrate left script files (Unharmed m.substrate files) (fetchBackup m backupId bufferPool)
      fun r w => Unharmed m.substrate files w ∧ ∀ path, r = .ok (some path) → w.world.prepared = true := by
  refine guarded_reporting ?_ (fails_unharmed left script files)
  refine guarded_bind (guarded_harmless left script files (harmless_quiet (quiet_setUnitStatus _))) (fun _ => ?_)
    fun _ _ holds => ⟨holds,nofun⟩
  refine guarded_bind (guarded_returns (guarded_harmless left script files (harmless_downloadBackup m backupId))
    (returns_downloadBackup m backupId)) (fun downloaded => ?_) fun _ _ holds => ⟨holds.1,nofun⟩
  refine guarded_mono (guarded_assuming fun under => ?_) (fun w holds => ⟨holds.1,holds.2 downloaded rfl⟩) fun _ _ => id
  refine guarded_bind (guarded_prepareBackup left script files m downloaded.2 bufferPool under) (fun output => ?_)
    fun _ _ holds => ⟨holds.1,nofun⟩
  exact guarded_ret fun w holds => ⟨holds.1,fun _ _ => holds.2 output rfl⟩

/-! ### Until the backup is restored -/

/-- The server may be stopped now, but the directories of the processes are still needed. -/
structure Prepared (s : Substrate) (scene : Scene Host Call) : Prop where
  prepared : scene.world.prepared = true
  beside : Beside s scene

/-- Calls that may touch these directories. -/
def Touching (s : Substrate) (c : Call) : Prop := resets c = true ∨ strays s c

theorem sound_prepared {scene : Scene Host Call} {c : Call} (careful : ¬ Touching s c)
    (before : Prepared s scene) : Sound s left script files scene c ∧
      Prepared s (respond (hostRules s left) script scene c).2 := by
  obtain ⟨keeps,near⟩ := not_or.mp careful
  refine ⟨⟨fun unprepared => ?_,fun _ reset => absurd reset keeps⟩,
    ⟨prepared_stays before.prepared c,beside_respond before.beside near⟩⟩
  rw [before.prepared] at unprepared
  cases unprepared

/-- A reset of the data or of the logs. -/
theorem sound_reset {scene : Scene Host Call} {c : Call}
    (elsewhere : ∀ path, reach s scene.world c path = true → Kept s path)
    (near : ¬ strays s c) (before : Prepared s scene) : Sound s left script files scene c ∧
      Prepared s (respond (hostRules s left) script scene c).2 := by
  refine ⟨⟨fun unprepared => ?_,fun _ _ directory member path within => files_respond ?_⟩,
    ⟨prepared_stays before.prepared c,beside_respond before.beside near⟩⟩
  · rw [before.prepared] at unprepared
    cases unprepared
  · by_contra reached
    exact not_kept_within (before.beside directory member) within (elsewhere path (by simpa using reached))

/-- Once the backup is restored, nothing is needed any more. -/
structure Restored (scene : Scene Host Call) : Prop where
  prepared : scene.world.prepared = true
  restored : scene.world.restored = true

theorem sound_restored {scene : Scene Host Call} (c : Call) (before : Restored scene) :
    Sound s left script files scene c ∧ Restored (respond (hostRules s left) script scene c).2 := by
  refine ⟨⟨fun unprepared => ?_,fun unrestored => ?_⟩,prepared_stays before.prepared c,restored_stays before.restored c⟩
  · rw [before.prepared] at unprepared
    cases unprepared
  · rw [before.restored] at unrestored
    cases unrestored

theorem touching_loud {c : Call} (touches : Touching s c) : Loud c := by
  rcases touches with reset | stray
  · cases c <;> first | rfl | cases reset
  · cases c <;> first | rfl | exact absurd stray id

theorem guarded_careful {α : Type} {p : Hook α} (avoids : Avoids (Touching s) p) :
    SoundPart s left script files (Prepared s) p fun _ => Prepared s :=
  guarded_frame (fun _ _ careful before => sound_prepared left script files careful before) avoids

/-- A command of the shell. -/
theorem guarded_shell {W : Type} {respond : W → (c : Call) → Except Exn (Reply c) × W} {P : W → Call → Prop}
    {Pre Post : W → Prop} {command : Command}
    (holds : ∀ w, Pre w → P w (.executeSync command) ∧ Post (respond w (.executeSync command)).2) :
    Guarded respond P Pre (ServerService.shell command) fun _ => Post := by
  have runs : Guarded respond P Pre (ask (.executeSync command)) fun _ => Post := guarded_perform holds
  exact guarded_bind runs (fun _ => guarded_ret fun _ => id) fun _ _ => id

theorem guarded_resetDataDir (m : BackupManager) :
    SoundPart m.substrate left script files (Prepared m.substrate)
      (resetDataDir m) fun _ => Prepared m.substrate := by
  refine guarded_shell fun w before => sound_reset left script files (fun path reached => ?_) id before
  exact .inl (.inr (of_decide_eq_true reached).1)

theorem guarded_resetLogsDir (m : BackupManager) :
    SoundPart m.substrate left script files (Prepared m.substrate)
      (resetLogsDir m) fun _ => Prepared m.substrate := by
  refine guarded_shell fun w before => sound_reset left script files (fun path reached => ?_) id before
  exact .inr (.inr (of_decide_eq_true reached))

theorem guarded_restoreBackup (m : BackupManager) (path : String) :
    SoundPart m.substrate left script files (Prepared m.substrate)
      (restoreBackup m path) fun r w => Prepared m.substrate w ∧ ∀ output, r = .ok output → Restored w := by
  refine guarded_perform fun w before => ?_
  have careful (args : List String) : ¬ Touching m.substrate (.executeSync (.execute args)) := not_or.mpr ⟨nofun,id⟩
  obtain ⟨sound,after⟩ := sound_prepared left script files (careful _) before
  exact ⟨sound,after,fun output answered => ⟨after.prepared,restored_respond (by simp [runsXtrabackup]) answered⟩⟩

theorem guarded_replaceData (m : BackupManager) (path : String) :
    SoundPart m.substrate left script files (Prepared m.substrate)
      (replaceData m path) fun r w => Prepared m.substrate w ∧ ∀ u, r = .ok (some u) → Restored w := by
  have fails (text : String) (w : Scene Host Call) (before : Prepared m.substrate w) :
      Sound m.substrate left script files w (.fail text) ∧
        Prepared m.substrate (respond (hostRules m.substrate left) script w (.fail text)).2 :=
    sound_prepared left script files (not_or.mpr ⟨nofun,id⟩) before
  refine guarded_reporting ?_ fails
  refine guarded_bind (guarded_resetDataDir left script files m) (fun _ => ?_) fun _ _ holds => ⟨holds,nofun⟩
  refine guarded_bind (guarded_resetLogsDir left script files m) (fun _ => ?_) fun _ _ holds => ⟨holds,nofun⟩
  refine guarded_bind (guarded_restoreBackup left script files m path) (fun output => ?_)
    fun _ _ holds => ⟨holds.1,nofun⟩
  -- the temporary directory is reset when the backup in it is restored
  have last : SoundPart m.substrate left script files (fun w => Prepared m.substrate w ∧ Restored w) (resetTempDir m)
      fun _ w => Prepared m.substrate w ∧ Restored w := by
    refine guarded_shell fun w before => ?_
    obtain ⟨sound,after⟩ := sound_restored left script files (.executeSync (.deleteContents _)) before.2
    exact ⟨sound,⟨after.prepared,beside_respond before.1.beside id⟩,after⟩
  exact guarded_mono last (fun w holds => ⟨holds.1,holds.2 output rfl⟩) fun _ _ holds => ⟨holds.1,fun _ _ => holds.2⟩

theorem guarded_restoreFrom (charm : Charm) (m : BackupManager) (path : String) :
    SoundPart m.substrate left script files (Prepared m.substrate)
      (restoreFrom charm m path) fun _ _ => True := by
  have stopping : Avoids (Touching m.substrate) (ServerService.stop charm.substrate) := by
    refine avoids_stop (fun c stops => ?_) _
    unfold stopsServer at stops
    split at stops <;> first | contradiction | exact not_or.mpr ⟨nofun,id⟩
  refine guarded_bind (guarded_careful left script files (avoids_mono (fun _ => touching_loud)
    (quiet_setUnitStatus _))) (fun _ => ?_) fun _ _ _ => trivial
  refine guarded_bind (guarded_careful left script files stopping) (fun _ => ?_) fun _ _ _ => trivial
  refine guarded_bind (guarded_replaceData left script files m path) (fun replaced => ?_) fun _ _ _ => trivial
  cases replaced with
  | none => exact guarded_ret fun _ _ => trivial
  | some u =>
    have free {p : Hook Unit} : SoundPart m.substrate left script files Restored p fun _ => Restored :=
      guarded_frame (fun w c _ before => sound_restored left script files c before) (avoids_of_never p)
    exact guarded_mono free (fun w holds => holds.2 u rfl) fun _ _ _ => trivial

/-- Every call of the action, in every run of it, is sound. -/
theorem restore_sound (charm : Charm) (m : BackupManager) (given : String) :
    EveryCall (respond (hostRules m.substrate left) script) (Sound m.substrate left script files)
      (onRestoreBackup charm m given) ⟨.initial files,[]⟩ := by
  have start : Unharmed m.substrate files ⟨.initial files,[]⟩ := ⟨fun _ _ => rfl,fun _ member => (nomatch member)⟩
  have guarded : SoundPart m.substrate left script files (Unharmed m.substrate files)
      (onRestoreBackup charm m given) fun _ _ => True := by
    unfold onRestoreBackup restoreById
    refine guarded_bind (guarded_harmless left script files (harmless_restoreAllowed charm)) (fun allowed => ?_)
      fun _ _ _ => trivial
    split
    · split
      · exact guarded_mono (guarded_harmless left script files (avoids_ask id)) (fun _ => id) fun _ _ _ => trivial
      · refine guarded_bind (guarded_checkExists left script files m _) (fun found => ?_) fun _ _ _ => trivial
        cases found with
        | none => exact guarded_ret fun _ _ => trivial
        | some u =>
          refine guarded_bind (guarded_harmless left script files (avoids_ask id)) (fun memory => ?_)
            fun _ _ _ => trivial
          refine guarded_bind (guarded_fetchBackup left script files m _ _) (fun fetched => ?_) fun _ _ _ => trivial
          cases fetched with
          | none => exact guarded_ret fun _ _ => trivial
          | some path =>
            exact guarded_mono (guarded_restoreFrom left script files charm m path)
              (fun w holds => ⟨holds.2 path rfl,holds.1.beside⟩) fun _ _ => id
    · exact guarded_ret fun _ _ => trivial
  exact (guarded _ start).1

end

end

end MysqlOperators.RestoreSafety
