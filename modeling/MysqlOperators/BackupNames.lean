import MysqlOperators.BackupListing
import MysqlOperators.Restore

/-!
The names of a backup. Create-backup stores the files of a backup under a path and a
date, list-backups parses the dates out of the keys, and restore builds the keys from
an identifier that the operator typed. They agree on a backup unless the bucket holds a
marker of the backup folder itself under a name that reads as metadata, or the
identifier comes with spaces inside of slashes.
-/
namespace MysqlOperators.BackupNames
open MysqlOperators.Program MysqlOperators.Program.Prog MysqlOperators.External MysqlOperators.Helpers
open MysqlOperators.Python MysqlOperators.Quiet MysqlOperators.Scripted MysqlOperators.Backup
open MysqlOperators.BackupReport MysqlOperators.BackupListing MysqlOperators.Restore

/-! ### The identifier that is typed -/

/-- Spaces stand outside of slashes. -/
def Trimmed (before after : String) : Prop :=
  (∀ c ∈ before.toList.dropWhile isSpace, isSlash c = true) ∧ ∀ c ∈ after.toList.rdropWhile isSpace, isSlash c = true

/-- A date begins with a digit and ends with a letter. -/
theorem strftime_ends (t : Moment) : ∃ n back front, strftime t = digitChar n :: back ∧ strftime t = front ++ ['Z'] := by
  refine ⟨t.year / 1000,(strftime t).tail,(strftime t).dropLast,rfl,?_⟩
  simp [strftime,fourDigits,twoDigits]

theorem isSpace_digitChar (n : Nat) : isSpace (digitChar n) = false := by
  have all : (List.range 10).all (fun d => isSpace (Char.ofNat (48 + d)) == false) = true := by decide
  have here := List.all_eq_true.mp all (n % 10) (List.mem_range.mpr (by omega))
  simpa [digitChar] using here

theorem isSlash_digitChar (n : Nat) : isSlash (digitChar n) = false := by
  have other : digitChar n ≠ '/' := digitChar_plain n '/' (by simp)
  simp [isSlash,other]

theorem cleanId_around (t : Moment) (before after : String) :
    cleanId (before ++ idOf t ++ after) = idOf t ↔ Trimmed before after := by
  obtain ⟨n,back,front,starts,ends⟩ := strftime_ends t
  have spaces := strip_around before.toList after.toList starts ends (isSpace_digitChar n) (by decide)
  have slashes := strip_around (before.toList.dropWhile isSpace) (after.toList.rdropWhile isSpace) starts ends
    (isSlash_digitChar n) (by decide)
  have clean : cleanId (before ++ idOf t ++ after) =
      String.ofList ((before.toList.dropWhile isSpace).dropWhile isSlash ++
        (strftime t ++ (after.toList.rdropWhile isSpace).rdropWhile isSlash)) := by
    simp only [cleanId,stripText,String.toList_append,idOf,String.toList_ofList,List.append_assoc,spaces,slashes]
  rw [clean,idOf,String.ofList_inj]
  constructor
  · intro same
    have lengths := congrArg List.length same
    simp only [List.length_append] at lengths
    have left : (before.toList.dropWhile isSpace).dropWhile isSlash = [] := List.length_eq_zero_iff.mp (by omega)
    have right : (after.toList.rdropWhile isSpace).rdropWhile isSlash = [] := List.length_eq_zero_iff.mp (by omega)
    exact ⟨List.dropWhile_eq_nil_iff.mp left,List.rdropWhile_eq_nil_iff.mp right⟩
  · rintro ⟨left,right⟩
    have noneLeft : (before.toList.dropWhile isSpace).dropWhile isSlash = [] :=
      List.dropWhile_eq_nil_iff.mpr left
    have noneRight : (after.toList.rdropWhile isSpace).rdropWhile isSlash = [] :=
      List.rdropWhile_eq_nil_iff.mpr right
    simp [noneLeft,noneRight]

/-! ### The run that creates the backup -/

/-- The keys in the bucket during a run. -/
def storageRules : Rules (List String) Call Reply Exn where
  answer _ c r := match c, r with
    | .uploadFile _ none _, .ok _ => .error ⟨.valueError,"Filename must be a string or a path-like object"⟩
    | _, r => r
  effect keys c r happened := if storesKey c r happened then keys ++ (storedKey c).toList else keys

/-- The name that a call uploads the output of another process under. -/
def uploadedName : Call → Option String
  | .startProcess command _ (some _) => command.getLast?
  | _ => none

/-- The action has reported a backup, uploaded it under a name, and stored its metadata,
    its checksum and its log. -/
structure Completed (s : Scene (List String) Call) (id name : String) : Prop where
  reported : Call.setResults "backup-id" id ∈ s.log
  uploaded : ∃ c ∈ s.log, uploadedName c = some name
  stored : ∀ ending ∈ [".metadata",".md5",".log"], name ++ ending ∈ s.world

/-- What a program that stores keys of one kind leaves of the others. -/
theorem keys_kept {kind : String → Prop} {α : Type} {p : Hook α} (only : StoresOnly kind p)
    (script : Script Call Reply Exn) {key : String} (other : ¬ kind key) (s : Scene (List String) Call) :
    key ∈ (run (respond storageRules script) p s).2.world ↔ key ∈ s.world := by
  refine iff_of_eq (run_keeps _ _ (fun keys : List String => key ∈ keys) (fun keys c r happened fine => ?_) only s)
  simp only [storageRules]
  split
  · rcases stored : storedKey c with _ | k
    · simp
    · have different : key ≠ k := by
        rintro rfl
        exact fine ⟨key,stored,other⟩
      simp [different]
  · rfl

/-- The names of the files next to a backup. -/
def FilesOf (path key : String) : Prop := key = path ++ ".md5" ∨ key = path ++ ".log"

theorem storesOnly_isolated (charm : Charm) (m : BackupManager) (requestTime path : String) :
    StoresOnly (FilesOf path) (do
      match ← isolateInstance (backupBody charm m path) with
      | .returned => pure ()
      | .continues => ask (.setResults "backup-id" requestTime) : Hook Unit) := by
  have body := storesOnly_body charm m path
  have left : StoresOnly (FilesOf path) leaveIsolation := storesOnly_of_attends _ attends_leaveIsolation
  refine avoids_bind (avoids_bind (storesOnly_of_attends _ attends_enterIsolation) fun mode => ?_) fun flow => ?_
  · cases mode with
    | alone => exact body
    | failed => exact body
    | isolated =>
      refine avoids_bind (avoids_tryExcept body fun _ => trivial) fun _ => ?_
      exact avoids_bind left fun _ => trivial
  · cases flow with
    | returned => trivial
    | continues => exact storesOnly_ask (fun _ => nofun)

theorem isolated_reports (charm : Charm) (m : BackupManager) (requestTime path id : String) (other : id ≠ requestTime) :
    Avoids (fun c => c = .setResults "backup-id" id) (do
      match ← isolateInstance (backupBody charm m path) with
      | .returned => pure ()
      | .continues => ask (.setResults "backup-id" requestTime) : Hook Unit) := by
  have silent : Avoids (fun c => c = .setResults "backup-id" id) (isolateInstance (backupBody charm m path)) := by
    refine avoids_mono (fun c same => ?_) (works_isolateInstance (works_backupBody charm m path))
    subst same
    rfl
  refine avoids_bind silent fun flow => ?_
  cases flow with
  | returned => trivial
  | continues => exact avoids_ask (by simpa using Ne.symm other)

section
variable {charm : Charm} {m : BackupManager} {force : Bool} {script : Script Call Reply Exn} {others : List String}
variable {id name : String}

/-- A reported identifier is the date of the request, and the name is made of it. -/
theorem time_of_completed
    (completed : Completed (play storageRules script (onCreateBackup charm m force) others).2 id name) :
    (∃ t, id = idOf t ∧ name = backupPathOf m t) ∧ ∃ storage, m.storage = some storage := by
  obtain ⟨reported,⟨c,started,last⟩,_⟩ := completed
  have stores : storedKey c = some (name ++ ".md5") := by
    unfold uploadedName at last
    split at last
    · simp [storedKey,last]
    · cases last
  have ran : play storageRules script (onCreateBackup charm m force) others = _ :=
    run_bind (respond storageRules script) (prepare charm m force) _ _
  have early : Call.setResults "backup-id" id ∉ (play storageRules script (prepare charm m force) others).2.log := by
    refine mt (run_log_avoids storageRules script (works_prepare charm m force) ?_ _).mp (by simp)
    rfl
  have unstarted : c ∉ (play storageRules script (prepare charm m force) others).2.log := by
    refine mt (run_log_avoids storageRules script (prepare_stores charm m force).1 ⟨_,stores,?_⟩ _).mp (by simp)
    rintro ⟨t,same⟩
    rw [fileKey_eq] at same
    exact (endings_apart _ _).2.1 same
  rw [ran] at reported started
  rw [show run (respond storageRules script) (prepare charm m force) ⟨others,[]⟩ =
    play storageRules script (prepare charm m force) others from rfl] at reported started
  rcases prepares : play storageRules script (prepare charm m force) others with ⟨e | ready,s₀⟩ <;>
    rw [prepares] at reported started early unstarted
  · exact absurd reported early
  rcases ready with _ | ⟨requestTime,path⟩
  · exact absurd reported early
  have returned := run_returns _ (prepare_stores charm m force).2 _ (congrArg Prod.fst prepares)
  obtain ⟨⟨t,time,path_⟩,configured⟩ := returned requestTime path rfl
  refine ⟨⟨t,?_,?_⟩,Option.isSome_iff_exists.mp configured⟩
  · by_contra other
    rw [← time] at other
    exact early ((run_log_avoids storageRules script (isolated_reports charm m requestTime path id other) rfl s₀).mp
      reported)
  · by_contra other
    refine unstarted ((run_log_avoids storageRules script (storesOnly_isolated charm m requestTime path)
      ⟨_,stores,?_⟩ s₀).mp started)
    rintro (same | same)
    · exact other (by rw [← path_]; exact String.append_left_inj ".md5" |>.mp same)
    · exact (endings_apart _ _).1 same

/-- The run stores files of backups only. -/
theorem others_of_world {key : String} (apart : ∀ t ending, ending ∈ [".metadata",".md5",".log"] →
      key ≠ backupPathOf m t ++ ending) :
    key ∈ (play storageRules script (onCreateBackup charm m force) others).2.world ↔ key ∈ others := by
  have ran : play storageRules script (onCreateBackup charm m force) others = _ :=
    run_bind (respond storageRules script) (prepare charm m force) _ _
  have early : key ∈ (run (respond storageRules script) (prepare charm m force) ⟨others,[]⟩).2.world ↔ key ∈ others :=
    keys_kept (prepare_stores charm m force).1 script
      (fun ⟨t,same⟩ => apart t ".metadata" (by simp) (by rw [same,fileKey_eq])) ⟨others,[]⟩
  rw [ran]
  rcases prepares : run (respond storageRules script) (prepare charm m force) ⟨others,[]⟩ with ⟨e | ready,s₀⟩ <;>
    rw [prepares] at early
  · exact early
  rcases ready with _ | ⟨requestTime,path⟩
  · exact early
  have returned := run_returns _ (prepare_stores charm m force).2 _ (congrArg Prod.fst prepares)
  obtain ⟨⟨t,_,rfl⟩,_⟩ := returned requestTime path rfl
  refine (keys_kept (storesOnly_isolated charm m requestTime _) script ?_ s₀).trans early
  rintro (same | same)
  · exact apart t ".md5" (by simp) same
  · exact apart t ".log" (by simp) same

end

/-! ### The list -/

/-- The pages that the storage answers for a prefix, with slashes as delimiters: each of
    the keys that extend the prefix by no further slash, once. -/
def Listing (path : String) (keys : List String) (pages : List (Option (List String))) : Prop :=
  (pageKeys pages).Nodup ∧ ∀ key, key ∈ pageKeys pages ↔
    key ∈ keys ∧ ∃ rest, '/' ∉ rest ∧ key = String.ofList (path.toList ++ rest)

/-- One page with such keys. -/
def listing (path : String) (keys : List String) : List (Option (List String)) :=
  [some (keys.dedup.filter fun key =>
    path.toList.isPrefixOf key.toList && !(key.toList.drop path.toList.length).contains '/')]

theorem listing_listing (path : String) (keys : List String) : Listing path keys (listing path keys) := by
  refine ⟨?_,fun key => ?_⟩
  · simpa [listing,pageKeys] using (List.nodup_dedup keys).filter _
  · simp only [listing,pageKeys,List.flatMap_cons,Option.getD_some,List.flatMap_nil,List.append_nil,List.mem_filter,
      List.mem_dedup,Bool.and_eq_true,List.isPrefixOf_iff_prefix,Bool.not_eq_true',List.contains_eq_mem,
      decide_eq_false_iff_not]
    refine and_congr_right fun _ => ⟨?_,?_⟩
    · rintro ⟨⟨rest,same⟩,plain⟩
      rw [← same,List.drop_left] at plain
      exact ⟨rest,plain,by rw [same,String.ofList_toList]⟩
    · rintro ⟨rest,plain,rfl⟩
      simp [plain]

/-- The bucket holds an object whose key is the folder and a slash, or a dot after it, and
    the folder is named like the metadata of the backup. -/
def Shadowed (folder id : String) (keys : List String) : Prop :=
  pathName folder.toList = (id ++ ".metadata").toList ∧ (keyOf folder [] ∈ keys ∨ keyOf folder ['.'] ∈ keys)

instance (folder id : String) (keys : List String) : Decidable (Shadowed folder id keys) :=
  inferInstanceAs (Decidable (_ ∧ _))

theorem pathName_marker (folder : String) {rest : List Char} (marker : rest = [] ∨ rest = ['.']) :
    pathName (keyOf folder rest).toList = pathName folder.toList := by
  rw [keyOf,String.toList_ofList]
  rcases marker with rfl | rfl <;> simp [pathName,split_between,split]

/-- A backup is listed as often as a key names its metadata. -/
theorem collectBackups_count (pages : List (Option (List String))) (id : String) :
    ((collectBackups pages).filter (fun backup => backup.id = id)).length =
      ((pageKeys pages).filter (fun key => metadataId key = some id)).length := by
  have each (keys : List String) : ((keys.filterMap metadataId).filter (fun i => i = id)).length =
      (keys.filter (fun key => metadataId key = some id)).length := by
    induction keys with
    | nil => rfl
    | cons key rest ih =>
      cases named : metadataId key with
      | none => simp [named,ih]
      | some i => by_cases same : i = id <;> simp [named,same,ih]
  unfold collectBackups
  rw [foldl_add_eq]
  simp only [List.nil_append]
  rw [((List.perm_insertionSort _ _).filter _).length_eq,List.filter_map,List.length_map,← each]
  congr 2
  funext i
  simp only [Function.comp_apply,BackupInfo.fromStorage]
  split
  · rfl
  · split <;> rfl

section
variable {folder : String} {t : Moment} {keys : List String} {pages : List (Option (List String))}
variable (lists : Listing (folder ++ "/") keys pages)
include lists

theorem listed_iff (key : String) :
    key ∈ pageKeys pages ↔ key ∈ keys ∧ ∃ rest, '/' ∉ rest ∧ key = keyOf folder rest := by
  rw [lists.2 key]
  simp [keyOf]

theorem file_listed {ending : String} (plain : '/' ∉ ending.toList) (member : fileKey folder t ending ∈ keys) :
    fileKey folder t ending ∈ pageKeys pages :=
  (listed_iff lists _).mpr ⟨member,strftime t ++ ending.toList,(fileName t _ plain).plain.1,rfl⟩

/-- A listed key that names the metadata of the backup is its metadata, or else a marker
    of a folder that is named so. -/
theorem metadata_or_marker {key : String} (listed : key ∈ pageKeys pages) (named : metadataId key = some (idOf t)) :
    key = fileKey folder t ".metadata" ∨ Shadowed folder (idOf t) keys := by
  obtain ⟨member,rest,plain,rfl⟩ := (listed_iff lists key).mp listed
  by_cases marker : rest = [] ∨ rest = ['.']
  · refine .inr ⟨?_,?_⟩
    · unfold metadataId at named
      split at named
      · rename_i isMetadata
        have stem := String.ofList_inj.mp (Option.some.inj named)
        have name := stem_append_suffix (keyOf folder rest).toList
        rw [pathName_marker folder marker,isMetadata.1,stem] at name
        simp [← name,idOf]
      · cases named
    · rcases marker with rfl | rfl
      · exact .inl member
      · exact .inr member
  · obtain ⟨nonempty,dot⟩ := not_or.mp marker
    exact .inl ((metadataId_iff ⟨rest,plain,nonempty,dot⟩).mp named)

omit lists in
/-- A folder that is named like metadata reads as metadata. -/
theorem metadataId_marker {rest : List Char} (marker : rest = [] ∨ rest = ['.'])
    (name : pathName folder.toList = (idOf t ++ ".metadata").toList) :
    metadataId (keyOf folder rest) = some (idOf t) := by
  have split_ : splitSuffix (strftime t ++ '.' :: "metadata".toList) = (strftime t,'.' :: "metadata".toList) :=
    splitSuffix_append (strftime_plain t).2.2 (by decide) (by decide)
  have whole : pathName (keyOf folder rest).toList = strftime t ++ '.' :: "metadata".toList := by
    rw [pathName_marker folder marker,name]
    simp [idOf]
  have stem : pathStem (keyOf folder rest).toList = strftime t := by rw [pathStem,whole,split_]
  have suffix : pathSuffix (keyOf folder rest).toList = ".metadata".toList := by
    rw [pathSuffix,whole,split_]
    rfl
  rw [metadataId,if_pos ⟨suffix,by rw [stem,strptime_strftime]; rfl⟩,stem]
  rfl

theorem listed_once_iff (metadata : fileKey folder t ".metadata" ∈ keys) (checksum : fileKey folder t ".md5" ∈ keys) :
    (collectBackups pages).filter (fun backup => backup.id = idOf t) = [⟨idOf t,.finished⟩] ↔
      ¬ Shadowed folder (idOf t) keys := by
  have own : metadataId (fileKey folder t ".metadata") = some (idOf t) :=
    (metadataId_iff (fileName t ".metadata".toList (by decide))).mpr rfl
  have listed := file_listed lists (by decide) metadata
  constructor
  · rintro once ⟨name,marker⟩
    have single : ((pageKeys pages).filter (fun key => metadataId key = some (idOf t))).length = 1 := by
      rw [← collectBackups_count,once]
      rfl
    obtain ⟨key,only⟩ := List.length_eq_one_iff.mp single
    have same {k : String} (inside : k ∈ pageKeys pages) (named : metadataId k = some (idOf t)) : k = key := by
      have found : k ∈ (pageKeys pages).filter (fun key => metadataId key = some (idOf t)) :=
        List.mem_filter.mpr ⟨inside,by simpa using named⟩
      rw [only] at found
      exact List.mem_singleton.mp found
    -- the marker is another key that reads as the metadata
    obtain ⟨rest,short,member⟩ : ∃ rest, (rest = [] ∨ rest = ['.']) ∧ keyOf folder rest ∈ keys := by
      rcases marker with member | member
      · exact ⟨[],.inl rfl,member⟩
      · exact ⟨['.'],.inr rfl,member⟩
    have plain : '/' ∉ rest := by rcases short with rfl | rfl <;> decide
    have named := metadataId_marker short name
    have equal := (same ((listed_iff lists _).mpr ⟨member,rest,plain,rfl⟩) named).trans (same listed own).symm
    have tails : '/' :: rest = '/' :: (strftime t ++ ".metadata".toList) := by
      have := String.ofList_inj.mp equal
      simpa using this
    have lengths := congrArg List.length tails
    rcases short with rfl | rfl <;> simp at lengths
  · intro clear
    have only : ∀ k ∈ pageKeys pages, metadataId k = some (idOf t) ↔ k = fileKey folder t ".metadata" := by
      intro k inside
      constructor
      · intro named
        exact (metadata_or_marker lists inside named).resolve_right clear
      · rintro rfl
        exact own
    rw [collectBackups_single lists.1 listed only]
    have found : ((pageKeys pages).filterMap checksumId).contains (idOf t) = true := by
      rw [List.contains_eq_mem,decide_eq_true_iff]
      refine List.mem_filterMap.mpr ⟨_,file_listed lists (by decide) checksum,?_⟩
      exact (checksumId_iff (fileName t ".md5".toList (by decide))).mpr rfl
    rw [found]
    rfl

end

/-! ### The actions that follow -/

/-- A temporary file changes nothing but the log, at its beginning and its end. -/
theorem run_temporaryFile {α : Type} {script : Script Call Reply Exn} {contents : Option String}
    {body : Option String → Hook α} {s s' : Scene Unit Call} {a : α}
    (returns : run (respond freeRules script) (temporaryFile contents body) s = (.ok a,s')) :
    ∃ name s₁ s₂, run (respond freeRules script) (body name) s₁ = (.ok a,s₂) ∧
      (s₁.log = s.log ∨ ∃ text, s₁.log = s.log ++ [.createTemporary text]) ∧ ∀ c ∈ s₂.log, c ∈ s'.log := by
  unfold temporaryFile at returns
  split at returns
  · exact ⟨none,s,s',returns,.inl rfl,fun _ => id⟩
  · rename_i text _
    rw [run_bind,run_perform] at returns
    rcases created : respond freeRules script s (.createTemporary text) with ⟨e | name,s₁⟩ <;> rw [created] at returns
    · cases returns
    · have log : s₁.log = s.log ++ [.createTemporary text] := (congrArg (fun r => r.2.log) created).symm
      simp only [finallyDo,run_handle] at returns
      rcases ran : run (respond freeRules script) (body (some name)) s₁ with ⟨e | b,s₂⟩ <;> rw [ran] at returns
      · simp only [run_perform] at returns
        split at returns <;> cases returns
      · simp only [run_perform] at returns
        split at returns <;> cases returns
        rename_i removed
        have log' : s'.log = s₂.log ++ [.unlink name] := (congrArg (fun r => r.2.log) removed).symm
        exact ⟨some name,s₁,s₂,ran,.inr ⟨text,log⟩,fun c member => by simp [log',member]⟩

/-- Whatever the storage lists of its keys, list-backups asks for one listing, and what it
    answers shows the backup once, as finished. -/
def ListedOnce (m : BackupManager) (keys : List String) (id : String) : Prop :=
  ∀ script : Script Call Reply Exn,
    (∀ bucket path pages, script.reply (.listObjects bucket path) 0 = .ok pages → Listing path keys pages) →
    ∀ text s, play freeRules script (listBackups m) () = (.ok text,s) →
      ∃ bucket path pages, Call.listObjects bucket path ∈ s.log ∧
        script.reply (.listObjects bucket path) 0 = .ok pages ∧ text = formatBackups (collectBackups pages) ∧
          (collectBackups pages).filter (fun backup => backup.id = id) = [⟨id,.finished⟩]

section
variable {m : BackupManager} {storage : BackupStorage} (configured : m.storage = some storage)
include configured

theorem folderOf_configured : folderOf m = storage.bucketPath := by simp [folderOf,configured]

theorem run_listBackups {script : Script Call Reply Exn} {text : String} {s : Scene Unit Call}
    (returns : play freeRules script (listBackups m) () = (.ok text,s)) :
    Call.listObjects storage.bucketName (storage.bucketPath ++ "/") ∈ s.log ∧ ∃ pages,
      script.reply (.listObjects storage.bucketName (storage.bucketPath ++ "/")) 0 = .ok pages ∧
        text = formatBackups (collectBackups pages) := by
  have ran : run (respond freeRules script) (temporaryFile storage.caChain fun caChainFile => do
      ask (.buildBackupClient caChainFile)
      let pages ← ask (.listObjects storage.bucketName (storage.bucketPath ++ "/"))
      pure (formatBackups (collectBackups pages))) ⟨(),[]⟩ = (.ok text,s) := by
    rw [← returns,play,listBackups,getStorage,configured]
    rfl
  obtain ⟨name,s₁,s₂,body,log,kept⟩ := run_temporaryFile ran
  rw [run_bind,run_perform] at body
  rcases built : respond freeRules script s₁ (.buildBackupClient name) with ⟨e | u,s₃⟩ <;> rw [built] at body
  · cases body
  have log₃ : s₃.log = s₁.log ++ [.buildBackupClient name] := (congrArg (fun r => r.2.log) built).symm
  have unlisted : s₃.log.count (.listObjects storage.bucketName (storage.bucketPath ++ "/")) = 0 := by
    rcases log with log | ⟨contents,log⟩ <;> simp [log₃,log]
  simp only [run_bind,run_perform] at body
  rcases listed : respond freeRules script s₃ (.listObjects storage.bucketName (storage.bucketPath ++ "/"))
    with ⟨e | pages,s₄⟩ <;> rw [listed] at body
  · cases body
  have answered : script.reply (.listObjects storage.bucketName (storage.bucketPath ++ "/")) 0 = .ok pages := by
    have first := congrArg Prod.fst listed
    simpa only [respond,freeRules,unlisted] using first
  have log₄ : s₄.log = s₃.log ++ [.listObjects storage.bucketName (storage.bucketPath ++ "/")] :=
    (congrArg (fun r => r.2.log) listed).symm
  cases body
  exact ⟨kept _ (by simp [log₄]),pages,answered,rfl⟩

theorem lists_configured : Avoids (fun c => ∃ bucket path, c = .listObjects bucket path ∧
    ¬ (bucket = storage.bucketName ∧ path = storage.bucketPath ++ "/")) (listBackups m) := by
  refine avoids_bind_returns (avoids_getStorage m) (returns_getStorage m) fun found same => ?_
  obtain rfl : storage = found := Option.some.inj (configured.symm.trans same)
  refine avoids_temporaryFile (fun _ => by simp) (fun _ => by simp) fun caChainFile => ?_
  refine avoids_bind (avoids_ask (by simp)) fun _ => avoids_bind (avoids_ask ?_) fun _ => trivial
  rintro ⟨bucket,path,called,other⟩
  obtain ⟨rfl,rfl⟩ := Call.listObjects.inj called
  exact other ⟨rfl,rfl⟩

/-- A storage that lists its keys on one page. -/
def tells (keys : List String) : Script Call Reply Exn where
  reply c _ := match c with
    | .listObjects _ path => .ok (listing path keys)
    | _ => .ok default
  takesEffect _ _ := false

theorem run_tells (keys : List String) : ∃ text s, play freeRules (tells keys) (listBackups m) () = (.ok text,s) := by
  simp only [play,listBackups,getStorage,configured]
  cases chain : nonEmpty storage.caChain with
  | none => simp [temporaryFile,chain,run_bind,respond,freeRules,tells,-bind_pure_comp]
  | some text => simp [temporaryFile,chain,run_bind,respond,freeRules,tells,finallyDo,run_handle,-bind_pure_comp]

theorem listedOnce_iff {keys : List String} {t : Moment} (metadata : fileKey storage.bucketPath t ".metadata" ∈ keys)
    (checksum : fileKey storage.bucketPath t ".md5" ∈ keys) :
    ListedOnce m keys (idOf t) ↔ ¬ Shadowed storage.bucketPath (idOf t) keys := by
  constructor
  · intro listed
    obtain ⟨text,s,returns⟩ := run_tells configured keys
    have truthful : ∀ bucket path pages, (tells keys).reply (.listObjects bucket path) 0 = .ok pages →
        Listing path keys pages := by
      intro bucket path pages answered
      obtain rfl : listing path keys = pages := Except.ok.inj answered
      exact listing_listing path keys
    obtain ⟨bucket,path,pages,member,answered,_,once⟩ := listed (tells keys) truthful text s returns
    have same : bucket = storage.bucketName ∧ path = storage.bucketPath ++ "/" := by
      by_contra other
      have never := run_log_avoids freeRules (tells keys) (lists_configured configured)
        (c := .listObjects bucket path) ⟨bucket,path,rfl,other⟩ ⟨(),[]⟩
      rw [show run (respond freeRules (tells keys)) (listBackups m) ⟨(),[]⟩ = _ from returns] at never
      simpa using never.mp member
    obtain ⟨rfl,rfl⟩ := same
    exact (listed_once_iff (truthful _ _ _ answered) metadata checksum).mp once
  · intro clear script truthful text s returns
    obtain ⟨member,pages,answered,same⟩ := run_listBackups configured returns
    exact ⟨_,_,pages,member,answered,same,
      (listed_once_iff (truthful _ _ _ answered) metadata checksum).mpr clear⟩

end

/-- The restore action looks for the checksum of the backup and no other, as it can, and
    downloads the backup and no other; it completes only after both. -/
def Restores (charm : Charm) (m : BackupManager) (given bucket name : String) : Prop :=
  (∀ script : Script Call Reply Exn, let log := (play freeRules script (onRestoreBackup charm m given) ()).2.log
    (∀ bucket' key, Call.getObject bucket' key ∈ log → bucket' = bucket ∧ key = name ++ ".md5") ∧
    (∀ command environ, Call.startProcess command environ none ∈ log → command.getLast? = some name) ∧
    (Call.setResults "completed" "ok" ∈ log → Call.getObject bucket (name ++ ".md5") ∈ log ∧
      ∃ command environ, Call.startProcess command environ none ∈ log)) ∧
  ∃ script : Script Call Reply Exn,
    Call.getObject bucket (name ++ ".md5") ∈ (play freeRules script (onRestoreBackup charm m given) ()).2.log

section
variable {m : BackupManager} {storage : BackupStorage} (configured : m.storage = some storage)

/-- The calls that a restoration of `backupId` does not make before it replaces the data. -/
def Strays (storage : BackupStorage) (backupId : String) (c : Call) : Prop :=
  (∃ bucket key, c = .getObject bucket key ∧
    ¬ (bucket = storage.bucketName ∧ key = storage.bucketPath ++ "/" ++ backupId ++ ".md5")) ∨
  (∃ command environ, c = .startProcess command environ none ∧
    command.getLast? ≠ some (storage.bucketPath ++ "/" ++ backupId)) ∨
  c = .setResults "completed" "ok"

theorem not_strays {backupId : String} {c : Call} (object : ∀ bucket key, c ≠ .getObject bucket key)
    (process : ∀ command environ, c ≠ .startProcess command environ none) (result : c ≠ .setResults "completed" "ok") :
    ¬ Strays storage backupId c := by
  rintro (⟨bucket,key,same,_⟩ | ⟨command,environ,same,_⟩ | same)
  · exact object bucket key same
  · exact process command environ same
  · exact result same

theorem attends_keepsTo {α : Type} {p : Hook α} (backupId : String) (inside : Avoids (Outside attends) p) :
    Avoids (Strays storage backupId) p := by
  refine avoids_mono (fun c strays => ?_) inside
  rcases strays with ⟨bucket,key,rfl,_⟩ | ⟨command,environ,rfl,_⟩ | rfl <;> rfl

theorem keepsTo_reporting {α : Type} {catches : Exn → Bool} {message backupId : String} {step : Hook α}
    (inside : Avoids (Strays storage backupId) step) :
    Avoids (Strays storage backupId) (reporting catches message step) := by
  refine avoids_tryElse inside (fun e => ?_) (fun _ => trivial)
  exact avoids_bind (avoids_ask (not_strays nofun nofun nofun)) fun _ => trivial

include configured in
theorem keepsTo_checkExists (backupId : String) : Avoids (Strays storage backupId) (checkExists m backupId) := by
  have same (found : BackupStorage) (returned : m.storage = some found) : storage = found :=
    Option.some.inj (configured.symm.trans returned)
  refine keepsTo_reporting (avoids_bind_returns (avoids_getStorage m) (returns_getStorage m) fun found returned => ?_)
  obtain rfl := same found returned
  refine avoids_bind_returns (avoids_getStorage m) (returns_getStorage m) fun found returned => ?_
  obtain rfl := same found returned
  refine avoids_temporaryFile (fun _ => not_strays nofun nofun nofun) (fun _ => not_strays nofun nofun nofun)
    fun caChainFile => ?_
  refine avoids_bind (avoids_ask (not_strays nofun nofun nofun)) fun _ => avoids_ask ?_
  rintro (⟨bucket,key,called,other⟩ | ⟨command,environ,called,_⟩ | called)
  · obtain ⟨rfl,rfl⟩ := Call.getObject.inj called
    exact other ⟨rfl,rfl⟩
  · cases called
  · cases called

include configured in
theorem keepsTo_downloadBackup (backupId : String) : Avoids (Strays storage backupId) (downloadBackup m backupId) := by
  have directory (dirPrefix : String) : Avoids (Strays storage backupId) (createTemporaryDir m dirPrefix) :=
    avoids_bind (avoids_ask (not_strays nofun nofun nofun)) fun _ => avoids_bind (avoids_ask (not_strays nofun nofun nofun))
      fun _ => trivial
  refine avoids_bind (avoids_ask (not_strays nofun nofun nofun)) fun cores => avoids_bind ?_ fun caChainPath => ?_
  · refine avoids_bind (avoids_getStorage m) fun found => ?_
    split
    · trivial
    · exact avoids_bind (directory _) fun _ => avoids_bind (avoids_ask (not_strays nofun nofun nofun)) fun _ => trivial
  refine avoids_bind (directory _) fun dir => ?_
  refine avoids_bind_returns (avoids_getStorage m) (returns_getStorage m) fun found returned => ?_
  obtain rfl : storage = found := Option.some.inj (configured.symm.trans returned)
  refine avoids_bind (avoids_executeAsync ?_ (fun _ => not_strays nofun nofun nofun) fun download => ?_) fun output => ?_
  · rintro (⟨bucket,key,called,_⟩ | ⟨command,environ,called,other⟩ | called)
    · cases called
    · obtain ⟨rfl,_⟩ := Call.startProcess.inj called
      exact other (by simp only [downloadCommand,List.getLast?_concat])
    · cases called
  · refine avoids_executeAsync (not_strays nofun nofun nofun) (fun _ => not_strays nofun nofun nofun) fun decompress => ?_
    exact avoids_bind (avoids_ask (not_strays nofun nofun nofun)) fun _ =>
      avoids_bind (avoids_ask (not_strays nofun nofun nofun)) fun _ =>
        avoids_bind (avoids_ask (not_strays nofun nofun nofun)) fun _ => trivial
  · split <;> trivial

theorem keepsTo_restoreAllowed (charm : Charm) (backupId : String) :
    Avoids (Strays storage backupId) (restoreAllowed charm) := by
  have skips (reason : String) : Avoids (Strays storage backupId) (Restore.skip reason) :=
    avoids_bind (avoids_ask (not_strays nofun nofun nofun)) fun _ => trivial
  refine avoids_bind (attends_keepsTo backupId (inside_ask rfl)) fun related => ?_
  refine avoids_ite _ (fun _ => ?_) (fun _ => skips _)
  refine avoids_bind (attends_keepsTo backupId (attends_of_quiet (quiet_initialized charm))) fun ready => ?_
  refine avoids_ite _ (fun _ => ?_) (fun _ => skips _)
  refine avoids_bind (attends_keepsTo backupId (inside_ask rfl)) fun refreshing => ?_
  refine avoids_ite _ (fun _ => skips _) fun _ => ?_
  refine avoids_bind (avoids_ask (not_strays nofun nofun nofun)) fun planned => ?_
  exact avoids_ite _ (fun _ => skips _) (fun _ => trivial)

include configured in
theorem keepsTo_fetchBackup (backupId : String) (bufferPool : Int) :
    Avoids (Strays storage backupId) (fetchBackup m backupId bufferPool) := by
  refine keepsTo_reporting (avoids_bind (attends_keepsTo backupId (attends_of_quiet (quiet_setUnitStatus _))) fun _ => ?_)
  refine avoids_bind (keepsTo_downloadBackup configured backupId) fun downloaded => ?_
  exact avoids_bind (attends_keepsTo backupId (inside_ask rfl)) fun _ => trivial

/-- The data is replaced without the storage. -/
theorem restoreFrom_apart {bad : Call → Prop} (objects : ∀ c, bad c → (∃ bucket key, c = .getObject bucket key) ∨
      ∃ command environ, c = .startProcess command environ none) (charm : Charm) (path : String) :
    Avoids bad (restoreFrom charm m path) := by
  have other {c : Call} (object : ∀ bucket key, c ≠ .getObject bucket key)
      (process : ∀ command environ, c ≠ .startProcess command environ none) : ¬ bad c := by
    intro isBad
    rcases objects c isBad with ⟨bucket,key,same⟩ | ⟨command,environ,same⟩
    · exact object bucket key same
    · exact process command environ same
  have loud : ∀ c, bad c → Loud c := by
    intro c isBad
    rcases objects c isBad with ⟨bucket,key,rfl⟩ | ⟨command,environ,rfl⟩ <;> rfl
  have plain {α : Type} {p : Hook α} (quiet : Avoids Loud p) : Avoids bad p := avoids_mono loud quiet
  have reports {α : Type} {message : String} {step : Hook α} (inside : Avoids bad step) :
      Avoids bad (reporting Exn.isRuntimeError message step) :=
    avoids_tryElse inside (fun _ => avoids_bind (avoids_ask (other nofun nofun)) fun _ => trivial) fun _ => trivial
  have shell (command : Command) : Avoids bad (Workload.ServerService.shell command) :=
    avoids_bind (avoids_ask (other nofun nofun)) fun _ => trivial
  refine avoids_bind (plain (quiet_setUnitStatus _)) fun _ => avoids_bind ?_ fun _ => avoids_bind (reports ?_) fun done => ?_
  · exact avoids_stop (fun c stops => other (by rintro _ _ rfl; cases stops) (by rintro _ _ rfl; cases stops)) _
  · exact avoids_bind (shell _) fun _ => avoids_bind (shell _) fun _ =>
      avoids_bind (avoids_ask (other nofun nofun)) fun _ => shell _
  · cases done with
    | none => trivial
    | some _ =>
      refine avoids_bind ?_ fun _ => avoids_bind (plain quiet_buildUnitStatus) fun _ => ?_
      · exact avoids_start (fun c starts => other (by rintro _ _ rfl; cases starts) (by rintro _ _ rfl; cases starts)) _
      refine avoids_bind (plain (quiet_setUnitStatus _)) fun _ => avoids_bind (reports ?_) fun recreated => ?_
      · have call (c : Call) (object : ∀ bucket key, c ≠ .getObject bucket key)
            (process : ∀ command environ, c ≠ .startProcess command environ none) : Avoids bad (ask c) :=
          avoids_ask (other object process)
        refine avoids_bind (avoids_bind (call _ nofun nofun) fun _ => call _ nofun nofun) fun _ => ?_
        refine avoids_bind (avoids_bind (call _ nofun nofun) fun _ => trivial) fun _ => ?_
        refine avoids_bind (avoids_bind (call _ nofun nofun) fun _ => call _ nofun nofun) fun _ => ?_
        exact avoids_bind (call _ nofun nofun) fun _ => call _ nofun nofun
      · cases recreated with
        | none => trivial
        | some _ => exact avoids_ask (other nofun nofun)

include configured in
/-- No run of the action asks for another object, or downloads another name. -/
theorem restoreById_apart (charm : Charm) (backupId : String) {c : Call} (strays : Strays storage backupId c)
    (result : c ≠ .setResults "completed" "ok") : Avoids (fun c' => c' = c) (restoreById charm m backupId) := by
  have early {α : Type} {p : Hook α} (keeps : Avoids (Strays storage backupId) p) : Avoids (fun c' => c' = c) p :=
    avoids_mono (fun _ same => same ▸ strays) keeps
  refine avoids_ite _ (fun _ => early (avoids_ask (not_strays nofun nofun nofun))) fun _ => ?_
  refine avoids_bind (early (keepsTo_checkExists configured _)) fun found => ?_
  cases found with
  | none => trivial
  | some _ =>
    refine avoids_bind (early (avoids_ask (not_strays nofun nofun nofun))) fun memory => ?_
    refine avoids_bind (early (keepsTo_fetchBackup configured _ _)) fun fetched => ?_
    cases fetched with
    | none => trivial
    | some path =>
      refine restoreFrom_apart (fun c' same => ?_) charm path
      subst same
      rcases strays with ⟨bucket,key,same,_⟩ | ⟨command,environ,same,_⟩ | same
      · exact .inl ⟨bucket,key,same⟩
      · exact .inr ⟨command,environ,same⟩
      · exact absurd same result

include configured in
theorem restore_apart (charm : Charm) (given : String) {c : Call} (strays : Strays storage (cleanId given) c)
    (result : c ≠ .setResults "completed" "ok") : Avoids (fun c' => c' = c) (onRestoreBackup charm m given) := by
  unfold onRestoreBackup
  generalize cleanId given = backupId at strays ⊢
  refine avoids_bind (avoids_mono (fun _ same => same ▸ strays) (keepsTo_restoreAllowed charm _)) fun allowed => ?_
  exact avoids_ite _ (fun _ => restoreById_apart configured charm _ strays result) (fun _ => trivial)

/-! ### Restorations that complete -/

section
variable {script : Script Call Reply Exn} {c : Call}

variable (script) in
/-- The log of a run only grows. -/
theorem log_kept {α : Type} (p : Hook α) (s : Scene Unit Call) (member : c ∈ s.log) :
    c ∈ (run (respond freeRules script) p s).2.log :=
  run_frame (P := fun s => c ∈ s.log) (fun _ _ _ _ _ before => by simp [Scene.after,before])
    (avoids_of_never p) s member

/-- A call that the first part of a program does not make is made after it has returned. -/
theorem later_of_avoids {α β : Type} {p : Hook α} {f : α → Hook β} (silent : Avoids (fun c' => c' = c) p)
    {s : Scene Unit Call} (before : c ∉ s.log) (made : c ∈ (run (respond freeRules script) (p >>= f) s).2.log) :
    ∃ a s', run (respond freeRules script) p s = (.ok a,s') ∧ c ∉ s'.log ∧
      run (respond freeRules script) (p >>= f) s = run (respond freeRules script) (f a) s' ∧
        c ∈ (run (respond freeRules script) (f a) s').2.log := by
  have quiet := mt (run_log_avoids freeRules script silent rfl s).mp before
  rw [run_bind] at made ⊢
  rcases ran : run (respond freeRules script) p s with ⟨e | a,s'⟩ <;> rw [ran] at made quiet
  · exact absurd made quiet
  · exact ⟨a,s',rfl,quiet,rfl,made⟩

/-- A step that is reported as done has returned. -/
theorem run_reporting {α : Type} {catches : Exn → Bool} {message : String} {step : Hook α} {s s' : Scene Unit Call}
    {a : α} (done : run (respond freeRules script) (reporting catches message step) s = (.ok (some a),s')) :
    run (respond freeRules script) step s = (.ok a,s') := by
  rw [reporting,run_tryElse] at done
  rcases ran : run (respond freeRules script) step s with ⟨e | b,s₁⟩ <;> rw [ran] at done
  · simp only [run_bind] at done
    split at done
    · split at done <;> cases done
    · cases done
  · cases done
    rfl

/-- A download that returns has started its process. -/
theorem starts_downloadBackup (backupId : String) : Triple freeRules script (fun _ => True) (downloadBackup m backupId)
    (fun _ s => ∃ command environ, Call.startProcess command environ none ∈ s.log) := by
  have kept {β : Type} (p : Hook β) : Triple freeRules script
      (fun s => ∃ command environ, Call.startProcess command environ none ∈ s.log) p
      (fun _ s => ∃ command environ, Call.startProcess command environ none ∈ s.log) := by
    intro s b s' before returns
    obtain ⟨command,environ,member⟩ := before
    have later := log_kept script p s member
    rw [returns] at later
    exact ⟨command,environ,later⟩
  refine triple_bind (triple_any _) fun cores => triple_bind (triple_any _) fun caChainPath => ?_
  refine triple_bind (triple_any _) fun dir => triple_bind (triple_any _) fun found => ?_
  refine triple_bind (Q := fun _ s => ∃ command environ, Call.startProcess command environ none ∈ s.log) ?_
    fun output => kept _
  refine triple_bind (Q := fun _ s => ∃ command environ, Call.startProcess command environ none ∈ s.log) ?_
    fun process => kept _
  exact triple_perform fun s raw a happened _ _ => ⟨_,_,List.mem_append_right _ (List.mem_singleton.mpr rfl)⟩

theorem starts_fetchBackup {backupId path : String} {bufferPool : Int} {s s' : Scene Unit Call}
    (fetched : run (respond freeRules script) (fetchBackup m backupId bufferPool) s = (.ok (some path),s')) :
    ∃ command environ, Call.startProcess command environ none ∈ s'.log := by
  obtain ⟨_,s₁,_,returned⟩ := run_bind_eq_ok _ (run_reporting fetched)
  obtain ⟨downloaded,s₂,ran,rest⟩ := run_bind_eq_ok _ returned
  obtain ⟨command,environ,member⟩ := starts_downloadBackup backupId s₁ downloaded s₂ trivial ran
  have later := log_kept script (do
    let _ ← prepareBackup m downloaded.2 bufferPool
    pure downloaded.2 : Hook String) s₂ member
  rw [rest] at later
  exact ⟨command,environ,later⟩

include configured in
/-- A check that passes has asked for the checksum. -/
theorem asks_checkExists {backupId : String} {s s' : Scene Unit Call} {u : Unit}
    (passed : run (respond freeRules script) (checkExists m backupId) s = (.ok (some u),s')) :
    Call.getObject storage.bucketName (storage.bucketPath ++ "/" ++ backupId ++ ".md5") ∈ s'.log := by
  have ran : run (respond freeRules script) (temporaryFile storage.caChain fun caChainFile => do
      ask (.buildBackupClient caChainFile)
      ask (.getObject storage.bucketName (storage.bucketPath ++ "/" ++ backupId ++ ".md5"))) s = (.ok u,s') := by
    have returned := run_reporting passed
    simp only [checkBackup,getStorage,configured] at returned
    exact returned
  obtain ⟨name,s₁,s₂,body,_,kept⟩ := run_temporaryFile ran
  obtain ⟨_,s₃,_,asked⟩ := run_bind_eq_ok _ body
  rw [run_perform] at asked
  have log : s₂.log = s₃.log ++ [.getObject storage.bucketName (storage.bucketPath ++ "/" ++ backupId ++ ".md5")] :=
    (congrArg (fun r => r.2.log) asked).symm
  exact kept _ (by simp [log])

include configured in
theorem completes_after (charm : Charm) (backupId : String)
    (completed : Call.setResults "completed" "ok" ∈ (run (respond freeRules script) (do
      if ← restoreAllowed charm then restoreById charm m backupId : Hook Unit) ⟨(),[]⟩).2.log) :
    let log := (run (respond freeRules script) (do
      if ← restoreAllowed charm then restoreById charm m backupId : Hook Unit) ⟨(),[]⟩).2.log
    Call.getObject storage.bucketName (storage.bucketPath ++ "/" ++ backupId ++ ".md5") ∈ log ∧
      ∃ command environ, Call.startProcess command environ none ∈ log := by
  have silent {α : Type} {p : Hook α} (keeps : Avoids (Strays storage backupId) p) :
      Avoids (fun c => c = .setResults "completed" "ok") p :=
    avoids_mono (fun c same => .inr (.inr same)) keeps
  obtain ⟨allowed,s₁,_,new₁,same₁,made₁⟩ :=
    later_of_avoids (silent (keepsTo_restoreAllowed charm _)) (by simp) completed
  rw [same₁]
  cases allowed with
  | false => exact absurd made₁ new₁
  | true =>
    simp only [if_true,restoreById] at made₁ ⊢
    by_cases missing : backupId = ""
    · simp only [if_pos missing] at made₁
      have fails : Avoids (Strays storage backupId) (ask (.fail "Skipping backup restoration: missing ID")) :=
        avoids_ask (not_strays nofun nofun nofun)
      exact absurd ((run_log_avoids freeRules script (silent fails) rfl s₁).mp made₁) new₁
    · simp only [if_neg missing] at made₁ ⊢
      obtain ⟨found,s₂,ran₂,new₂,same₂,made₂⟩ :=
        later_of_avoids (silent (keepsTo_checkExists configured backupId)) new₁ made₁
      rw [same₂]
      cases found with
      | none => exact absurd made₂ new₂
      | some u =>
        refine ⟨log_kept _ _ s₂ (asks_checkExists configured ran₂),?_⟩
        obtain ⟨memory,s₃,_,new₃,same₃,made₃⟩ :=
          later_of_avoids (silent (avoids_ask (c := .memory) (not_strays nofun nofun nofun))) new₂ made₂
        simp only [same₃]
        obtain ⟨fetched,s₄,ran₄,new₄,same₄,made₄⟩ :=
          later_of_avoids (silent (keepsTo_fetchBackup configured backupId _)) new₃ made₃
        simp only [same₄]
        cases fetched with
        | none => exact absurd made₄ new₄
        | some path =>
          obtain ⟨command,environ,started⟩ := starts_fetchBackup ran₄
          exact ⟨command,environ,log_kept _ _ s₄ started⟩

/-- Every check of the action passes. -/
def grants : Script Call Reply Exn where
  reply c _ := match c with
    | .relation _ | .snapPresent | .snapServiceActive | .canConnect => .ok true
    | .serviceRunning _ => .ok (some true)
    | .appData _ => .ok (some "cluster")
    | .clusterLabels _ => .ok ["cluster"]
    | _ => .ok default
  takesEffect _ _ := false

omit script in
theorem run_grants_allowed (charm : Charm) :
    ∃ s, run (respond freeRules grants) (restoreAllowed charm) ⟨(),[]⟩ = (.ok true,s) := by
  have ready (s : Scene Unit Call) : ∃ s', run (respond freeRules grants) (initialized charm) s = (.ok true,s') := by
    unfold initialized
    cases charm.substrate <;>
      simp [Workload.ServerService.running,Clients.InstanceClient.fetchClusterLabels,clusterName,nonEmpty,run_bind,
        run_tryElse,run_tryExcept,respond,freeRules,grants,-bind_pure_comp]
  have step (c : Call) (s : Scene Unit Call) :
      respond freeRules grants s c = (grants.reply c 0,⟨(),s.log ++ [c]⟩) := rfl
  have related : grants.reply (.relation relationBackups) 0 = .ok true := rfl
  have calm : grants.reply .refreshing 0 = .ok false := rfl
  have single : grants.reply .plannedUnits 0 = .ok 0 := rfl
  obtain ⟨s',initial⟩ := ready ⟨(),[.relation relationBackups]⟩
  simp [restoreAllowed,run_bind,step,related,initial,calm,single]

include configured in
theorem run_grants_asks (charm : Charm) {backupId : String} (present : backupId ≠ "") :
    Call.getObject storage.bucketName (storage.bucketPath ++ "/" ++ backupId ++ ".md5") ∈
      (run (respond freeRules grants) (do
        if ← restoreAllowed charm then restoreById charm m backupId : Hook Unit) ⟨(),[]⟩).2.log := by
  obtain ⟨s,allowed⟩ := run_grants_allowed charm
  have passes : ∃ s', run (respond freeRules grants) (checkExists m backupId) s = (.ok (some ()),s') := by
    simp only [checkExists,reporting,checkBackup,getStorage,configured]
    cases chain : nonEmpty storage.caChain with
    | none => simp [temporaryFile,chain,run_bind,run_tryElse,respond,freeRules,grants]
    | some text => simp [temporaryFile,chain,run_bind,run_tryElse,respond,freeRules,grants,finallyDo,run_handle]
  obtain ⟨s',passed⟩ := passes
  rw [run_bind,allowed]
  simp only [if_true,restoreById,if_neg present]
  rw [run_bind,passed]
  exact log_kept _ _ s' (asks_checkExists configured passed)

end

include configured in
/-- The action restores a backup exactly if its identifier is what is left of the text. -/
theorem restores_iff (charm : Charm) (given : String) {backupId : String} (present : backupId ≠ "") :
    Restores charm m given storage.bucketName (storage.bucketPath ++ "/" ++ backupId) ↔ cleanId given = backupId := by
  unfold Restores
  constructor
  · rintro ⟨_,script,asked⟩
    by_contra other
    have strays : Strays storage (cleanId given)
        (.getObject storage.bucketName (storage.bucketPath ++ "/" ++ backupId ++ ".md5")) := by
      refine .inl ⟨_,_,rfl,fun same => other ?_⟩
      have names := (String.append_left_inj ".md5").mp same.2
      exact ((String.append_right_inj _).mp names).symm
    have never := run_log_avoids freeRules script (restore_apart configured charm given strays nofun) rfl ⟨(),[]⟩
    simpa using never.mp asked
  · rintro rfl
    refine ⟨fun script => ⟨fun bucket key asked => ?_,fun command environ started => ?_,fun completed => ?_⟩,grants,?_⟩
    · by_contra other
      have never := run_log_avoids freeRules script (restore_apart configured charm given
        (.inl ⟨bucket,key,rfl,other⟩) nofun) rfl ⟨(),[]⟩
      simpa using never.mp asked
    · by_contra other
      have never := run_log_avoids freeRules script (restore_apart configured charm given
        (.inr (.inl ⟨command,environ,rfl,other⟩)) nofun) rfl ⟨(),[]⟩
      simpa using never.mp started
    · exact completes_after configured charm (cleanId given) completed
    · exact run_grants_asks configured charm present

end

/-! ### Agreement -/

/-- The backup is listed once, as finished, and can be restored by the text that is given. -/
def Agree (m : BackupManager) (keys : List String) (id name : String) (restorer : Charm) (given : String) : Prop :=
  ListedOnce m keys id ∧ ∃ storage, m.storage = some storage ∧ Restores restorer m given storage.bucketName name

/-- The markers of the folder were in the bucket before the run, if they are there after it. -/
theorem shadowed_others {charm : Charm} {m : BackupManager} {force : Bool} {script : Script Call Reply Exn}
    {others : List String} (id : String) :
    Shadowed (folderOf m) id (play storageRules script (onCreateBackup charm m force) others).2.world ↔
      Shadowed (folderOf m) id others := by
  have marker {rest : List Char} (short : rest.length ≤ 1) :
      keyOf (folderOf m) rest ∈ (play storageRules script (onCreateBackup charm m force) others).2.world ↔
        keyOf (folderOf m) rest ∈ others := by
    refine others_of_world fun t ending _ same => ?_
    rw [← fileKey_eq] at same
    have tails := List.append_cancel_left (String.ofList_inj.mp same)
    have lengths := congrArg List.length tails
    simp [strftime,fourDigits,twoDigits] at lengths
    omega
  unfold Shadowed
  rw [marker (by simp),marker (by simp)]

/-- For every configuration, every run that completes a backup among any objects, and
    every text around its identifier. -/
theorem agree_iff (s : Substrate) (info : ConnectionInfo) (charm : Charm) (script : Script Call Reply Exn) (force : Bool)
    (others : List String) (id name : String)
    (completed : Completed (play storageRules script (onCreateBackup charm (s3Manager s info) force) others).2 id name)
    (restorer : Charm) (before after : String) :
    Agree (s3Manager s info) (play storageRules script (onCreateBackup charm (s3Manager s info) force) others).2.world
        id name restorer (before ++ id ++ after) ↔
      ¬ Shadowed (folderOf (s3Manager s info)) id others ∧ Trimmed before after := by
  obtain ⟨⟨t,rfl,rfl⟩,storage,configured⟩ := time_of_completed completed
  have folder := folderOf_configured configured
  have stored (ending : String) (listed : ending ∈ [".metadata",".md5",".log"]) :
      fileKey storage.bucketPath t ending ∈
        (play storageRules script (onCreateBackup charm (s3Manager s info) force) others).2.world := by
    rw [← folder,fileKey_eq]
    exact completed.stored ending listed
  have present : idOf t ≠ "" := by
    intro empty
    have none_left := congrArg String.toList empty
    simp [idOf,(strftime_plain t).2.2] at none_left
  have listed := listedOnce_iff configured (stored ".metadata" (by simp)) (stored ".md5" (by simp))
  have restored := restores_iff configured restorer (before ++ idOf t ++ after) present
  rw [← folder,shadowed_others] at listed
  rw [cleanId_around] at restored
  have name : storage.bucketPath ++ "/" ++ idOf t = backupPathOf (s3Manager s info) t := by
    rw [backupPathOf,folder]
  rw [name] at restored
  constructor
  · rintro ⟨once,found,same,restores⟩
    obtain rfl : storage = found := Option.some.inj (configured.symm.trans same)
    exact ⟨listed.mp once,restored.mp restores⟩
  · rintro ⟨clear,trimmed⟩
    exact ⟨listed.mpr clear,storage,configured,restored.mpr trimmed⟩

/-- One instance, whose every call succeeds; each process stores what it uploads. -/
def replies : Script Call Reply Exn where
  reply c _ := match c with
    | .relation _ | .snapPresent | .snapServiceActive => .ok true
    | .appData _ => .ok (some "cluster")
    | .clusterLabels _ => .ok ["cluster"]
    | .clusterStatus _ => .ok ⟨.primary,.ok,some "10.0.0.10:3306",[("mysql-0",⟨.online,"R/W",none,none⟩)]⟩
    | .instanceState _ => .ok (some .online)
    | .peekContent _ => .ok [("backups-password","secret")]
    | .readOutput _ => .ok (some "completed OK!")
    | _ => .ok default
  takesEffect _ _ := true

def relationInfo : ConnectionInfo :=
  ⟨[("bucket"," /backups/ "),("access-key","key"),("secret-key","secret"),("path"," /mysql/ ")],none⟩

theorem completed_replies :
    Completed (play storageRules replies (onCreateBackup backupUnit (s3Manager .vm relationInfo) false) []).2
      "1970-01-01T00:00:00Z" "/mysql//1970-01-01T00:00:00Z" where
  reported := by decide +kernel
  uploaded := by decide +kernel
  stored := by decide +kernel

theorem agree_replies : Agree (s3Manager .vm relationInfo)
    (play storageRules replies (onCreateBackup backupUnit (s3Manager .vm relationInfo) false) []).2.world
    "1970-01-01T00:00:00Z" "/mysql//1970-01-01T00:00:00Z" backupUnit (" /" ++ "1970-01-01T00:00:00Z" ++ "/ ") :=
  (agree_iff .vm relationInfo backupUnit replies false [] _ _ completed_replies backupUnit " /" "/ ").mpr
    ⟨by decide +kernel,List.all_eq_true.mp (by decide +kernel : " /".toList.dropWhile isSpace |>.all isSlash),
      List.all_eq_true.mp (by decide +kernel : "/ ".toList.rdropWhile isSpace |>.all isSlash)⟩

/-- A space inside of a slash stays. -/
theorem spacedId_disagrees :
    ¬ ∀ (s : Substrate) (info : ConnectionInfo) (charm : Charm) (script : Script Call Reply Exn) (force : Bool)
      (others : List String) (id name : String),
        Completed (play storageRules script (onCreateBackup charm (s3Manager s info) force) others).2 id name →
          ∀ (restorer : Charm) (before after : String),
            (∀ c ∈ before.toList ++ after.toList, isSpace c = true ∨ isSlash c = true) →
              Agree (s3Manager s info)
                (play storageRules script (onCreateBackup charm (s3Manager s info) force) others).2.world id name restorer
                (before ++ id ++ after) := by
  intro always
  have decoration : ("/ ".toList ++ "".toList).all (fun c => isSpace c || isSlash c) = true := by decide +kernel
  have agrees := always .vm relationInfo backupUnit replies false [] _ _ completed_replies backupUnit "/ " ""
    fun c member => by simpa using List.all_eq_true.mp decoration c member
  obtain ⟨_,storage,configured,restores⟩ := agrees
  have path : storage.bucketPath = "/mysql/" := by
    have found : (s3Manager .vm relationInfo).storage.map BackupStorage.bucketPath = some "/mysql/" := by decide +kernel
    rw [configured] at found
    exact Option.some.inj found
  have name : "/mysql//1970-01-01T00:00:00Z" = storage.bucketPath ++ "/" ++ "1970-01-01T00:00:00Z" := by
    rw [path]
    decide +kernel
  rw [name] at restores
  have clean := (restores_iff configured backupUnit _ (by decide)).mp restores
  revert clean
  decide +kernel

end MysqlOperators.BackupNames
