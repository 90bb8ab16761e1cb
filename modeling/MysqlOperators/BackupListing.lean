import MysqlOperators.BackupReport
import Mathlib.Data.List.Dedup

/-!
The backups that are listed. The bucket holds the files of the backup folder: what
others put there, and what a run of create-backup stores, the metadata, the log and
the checksum that `xbcloud` uploads at its end. The list reads the status of a
backup off the names of these files.
-/
namespace MysqlOperators.BackupListing
open MysqlOperators.Program MysqlOperators.Program.Prog MysqlOperators.External MysqlOperators.Helpers
open MysqlOperators.Python MysqlOperators.Quiet MysqlOperators.Scripted MysqlOperators.Backup
open MysqlOperators.BackupReport
set_option linter.unusedSimpArgs false

/-! ### Keys and identifiers -/

/-- The name of a file in a folder. -/
structure FileName where
  name : List Char
  plain : '/' ∉ name ∧ name ≠ [] ∧ name ≠ ['.']

def keyOf (folder : String) (name : List Char) : String := String.ofList (folder.toList ++ '/' :: name)

/-- The key of a file of a backup. -/
def fileKey (folder : String) (t : Moment) (ending : String) : String :=
  keyOf folder (strftime t ++ ending.toList)

def idOf (t : Moment) : String := String.ofList (strftime t)

/-- The identifier that a key contributes to each list. -/
def metadataId (key : String) : Option String :=
  if pathSuffix key.toList = ".metadata".toList ∧ (strptime (pathStem key.toList)).isSome then
    some (String.ofList (pathStem key.toList))
  else none

def checksumId (key : String) : Option String :=
  if pathSuffix key.toList = ".md5".toList then some (String.ofList (pathStem key.toList)) else none

def logId (key : String) : Option String :=
  if pathSuffix key.toList = ".log".toList then
    some (String.ofList (removeSuffix (pathStem key.toList) ".backup".toList))
  else none

theorem endings_differ : ".metadata".toList ≠ ".md5".toList ∧ ".metadata".toList ≠ ".log".toList ∧
    ".md5".toList ≠ ".log".toList := by decide

theorem add_eq (ids : FileIds) (key : String) : ids.add key =
    ⟨ids.metadata ++ (metadataId key).toList,ids.checksum ++ (checksumId key).toList,
      ids.log ++ (logId key).toList⟩ := by
  obtain ⟨metadata,checksum,log⟩ := ids
  obtain ⟨md5,metadataLog,md5Log⟩ := endings_differ
  simp only [FileIds.add,metadataId,checksumId,logId]
  -- the kernel must not compare the characters of the endings
  generalize pathSuffix key.toList = suffix
  generalize pathStem key.toList = stem
  generalize ".metadata".toList = a at *
  generalize ".md5".toList = b at *
  generalize ".log".toList = c at *
  by_cases isMetadata : suffix = a
  · subst isMetadata
    generalize strptime stem = date
    cases date <;> simp [md5,metadataLog]
  by_cases isChecksum : suffix = b
  · subst isChecksum
    simp [isMetadata,md5Log]
  by_cases isLog : suffix = c
  · subst isLog
    simp [isMetadata,isChecksum]
  · simp [isMetadata,isChecksum,isLog]

theorem foldl_add_eq (keys : List String) (ids : FileIds) : keys.foldl FileIds.add ids =
    ⟨ids.metadata ++ keys.filterMap metadataId,ids.checksum ++ keys.filterMap checksumId,
      ids.log ++ keys.filterMap logId⟩ := by
  induction keys generalizing ids with
  | nil => simp
  | cons key rest ih =>
    rw [List.foldl_cons,ih,add_eq]
    simp only [List.filterMap_cons,List.append_assoc]
    congr 2
    · cases metadataId key <;> simp
    · cases checksumId key <;> simp
    · cases logId key <;> simp

/-- Of different keys, one alone contributes an identifier. -/
theorem filterMap_single {f : String → Option String} {keys : List String} {key id : String} (nodup : keys.Nodup)
    (member : key ∈ keys) (only : ∀ k ∈ keys, f k = some id ↔ k = key) :
    (keys.filterMap f).filter (fun i => i = id) = [id] := by
  have none_left : ∀ l : List String, (∀ k ∈ l, f k ≠ some id) → (l.filterMap f).filter (fun i => i = id) = [] := by
    intro l other
    refine List.filter_eq_nil_iff.mpr fun i listed => ?_
    obtain ⟨k,inside,found⟩ := List.mem_filterMap.mp listed
    simp only [decide_eq_true_eq]
    rintro rfl
    exact other k inside found
  obtain ⟨before,after,rfl⟩ := List.append_of_mem member
  have apart := List.nodup_append.mp nodup
  have here : f key = some id := (only key (by simp)).mpr rfl
  have left : ∀ k ∈ before, f k ≠ some id := fun k inside found =>
    apart.2.2 k inside key (by simp) ((only k (by simp [inside])).mp found)
  have right : ∀ k ∈ after, f k ≠ some id := fun k inside found => by
    have same := (only k (by simp [inside])).mp found
    exact (List.nodup_cons.mp apart.2.1).1 (same ▸ inside)
  simp [List.filterMap_append,List.filter_append,none_left before left,none_left after right,here]

/-- What the list shows for an identifier that one key alone names. -/
theorem collectBackups_single {pages : List (Option (List String))} {key id : String} (nodup : (pageKeys pages).Nodup)
    (member : key ∈ pageKeys pages) (only : ∀ k ∈ pageKeys pages, metadataId k = some id ↔ k = key) :
    (collectBackups pages).filter (fun backup => backup.id = id) =
      [BackupInfo.fromStorage id (((pageKeys pages).filterMap checksumId).contains id)
        (((pageKeys pages).filterMap logId).contains id)] := by
  have sameId : ∀ i checksum logFile, (BackupInfo.fromStorage i checksum logFile).id = i := by
    intro i checksum logFile
    unfold BackupInfo.fromStorage
    split
    · rfl
    · split <;> rfl
  unfold collectBackups
  rw [foldl_add_eq]
  simp only [List.nil_append]
  refine List.perm_singleton.mp (((List.perm_insertionSort _ _).filter _).trans ?_)
  rw [List.filter_map]
  have same : (fun backup : BackupInfo => decide (backup.id = id)) ∘ (fun i => BackupInfo.fromStorage i
      (((pageKeys pages).filterMap checksumId).contains i) (((pageKeys pages).filterMap logId).contains i)) =
      fun i => decide (i = id) := by
    funext i
    simp [sameId]
  rw [same,filterMap_single nodup member only]
  exact List.Perm.refl _

/-! ### Files of the folder -/

/-- Whether a key has one of the endings that the list looks at. -/
def Named (key : String) : Prop :=
  pathSuffix key.toList = ".metadata".toList ∨ pathSuffix key.toList = ".md5".toList ∨
    pathSuffix key.toList = ".log".toList

theorem pathName_keyOf (folder : String) (file : FileName) : pathName (keyOf folder file.name).toList = file.name := by
  rw [keyOf,String.toList_ofList]
  exact pathName_file _ file.plain.1 file.plain.2.1 file.plain.2.2

/-- The files of a backup are files of its folder. -/
def fileName (t : Moment) (ending : List Char) (plain : '/' ∉ ending) : FileName where
  name := strftime t ++ ending
  plain := by
    obtain ⟨slash,dot,nonempty⟩ := strftime_plain t
    refine ⟨by simp [slash,plain],by simp [nonempty],fun single => ?_⟩
    obtain ⟨c,rest,date⟩ := List.exists_cons_of_ne_nil nonempty
    rw [date] at single dot
    exact dot (by simp [(List.cons.inj single).1])

/-- Stem and suffix of the key of a backup's file. -/
theorem fileKey_parts (folder : String) (t : Moment) (first extension : List Char)
    (plain : '/' ∉ first ∧ '/' ∉ extension) (last : '.' ∉ extension ∧ extension ≠ []) :
    pathStem (keyOf folder (strftime t ++ (first ++ '.' :: extension))).toList = strftime t ++ first ∧
      pathSuffix (keyOf folder (strftime t ++ (first ++ '.' :: extension))).toList = '.' :: extension := by
  have name := pathName_keyOf folder (fileName t (first ++ '.' :: extension) (by simp [plain]))
  have parts : splitSuffix (strftime t ++ (first ++ '.' :: extension)) = (strftime t ++ first,'.' :: extension) := by
    rw [← List.append_assoc]
    exact splitSuffix_append (by simp [(strftime_plain t).2.2]) last.1 last.2
  simp only [fileName] at name
  simp only [pathStem,pathSuffix,name,parts,and_self]

/-- A key in the folder is given by its stem and its suffix. -/
theorem keyOf_eq (folder : String) (file : FileName) : keyOf folder file.name =
    keyOf folder (pathStem (keyOf folder file.name).toList ++ pathSuffix (keyOf folder file.name).toList) := by
  rw [stem_append_suffix,pathName_keyOf]

theorem fileKey_inj {folder : String} {t u : Moment} {ending ending' : String}
    (same : fileKey folder t ending = fileKey folder u ending') :
    strftime t ++ ending.toList = strftime u ++ ending'.toList := by
  have := String.ofList_inj.mp same
  simpa using this

section
variable {folder : String} {t : Moment}

theorem metadataId_iff (file : FileName) :
    metadataId (keyOf folder file.name) = some (idOf t) ↔ keyOf folder file.name = fileKey folder t ".metadata" := by
  constructor
  · intro id
    unfold metadataId at id
    split at id
    · rename_i isMetadata
      rw [keyOf_eq,isMetadata.1,String.ofList_inj.mp (Option.some.inj id)]
      rfl
    · cases id
  · intro same
    obtain ⟨stem,suffix⟩ := fileKey_parts folder t [] "metadata".toList (by decide) (by decide)
    rw [List.append_nil] at stem
    rw [same,metadataId,if_pos]
    · exact congrArg (fun name => some (String.ofList name)) stem
    · exact ⟨suffix,by rw [show pathStem (fileKey folder t ".metadata").toList = strftime t from stem,
        strptime_strftime]; rfl⟩

theorem checksumId_iff (file : FileName) :
    checksumId (keyOf folder file.name) = some (idOf t) ↔ keyOf folder file.name = fileKey folder t ".md5" := by
  constructor
  · intro id
    unfold checksumId at id
    split at id
    · rename_i isChecksum
      rw [keyOf_eq,isChecksum,String.ofList_inj.mp (Option.some.inj id)]
      rfl
    · cases id
  · intro same
    obtain ⟨stem,suffix⟩ := fileKey_parts folder t [] "md5".toList (by decide) (by decide)
    rw [List.append_nil] at stem
    rw [same,checksumId,if_pos]
    · exact congrArg (fun name => some (String.ofList name)) stem
    · exact suffix

theorem removeSuffix_append (text ending : List Char) : removeSuffix (text ++ ending) ending = text := by
  simp [removeSuffix]

theorem removeSuffix_eq {text ending rest : List Char} (removed : removeSuffix text ending = rest) :
    text = rest ∨ text = rest ++ ending := by
  unfold removeSuffix at removed
  split at removed
  · rename_i isSuffix
    obtain ⟨before,rfl⟩ := List.isSuffixOf_iff_suffix.mp isSuffix
    simp only [List.length_append,Nat.add_sub_cancel,List.take_left'] at removed
    exact .inr (by rw [← removed])
  · exact .inl removed

/-- A date ends with no dot, so nothing is removed from it. -/
theorem removeSuffix_date : removeSuffix (strftime t) ".backup".toList = strftime t := by
  unfold removeSuffix
  rw [if_neg]
  intro isSuffix
  obtain ⟨before,date⟩ := List.isSuffixOf_iff_suffix.mp isSuffix
  refine (strftime_plain t).2.1 ?_
  rw [← date]
  exact List.mem_append_right _ (by decide)

theorem logId_iff (file : FileName) : logId (keyOf folder file.name) = some (idOf t) ↔
    keyOf folder file.name = fileKey folder t ".log" ∨ keyOf folder file.name = fileKey folder t ".backup.log" := by
  constructor
  · intro id
    unfold logId at id
    split at id
    · rename_i isLog
      rw [keyOf_eq,isLog]
      rcases removeSuffix_eq (String.ofList_inj.mp (Option.some.inj id)) with stem | stem <;> rw [stem]
      · exact .inl rfl
      · rw [List.append_assoc]
        exact .inr rfl
    · cases id
  · rintro (same | same)
    · obtain ⟨stem,suffix⟩ := fileKey_parts folder t [] "log".toList (by decide) (by decide)
      rw [List.append_nil] at stem
      rw [same,logId,if_pos]
      · exact congrArg (fun name => some (String.ofList name))
          ((congrArg (removeSuffix · ".backup".toList) stem).trans removeSuffix_date)
      · exact suffix
    · obtain ⟨stem,suffix⟩ := fileKey_parts folder t ".backup".toList "log".toList (by decide) (by decide)
      rw [same,logId,if_pos]
      · exact congrArg (fun name => some (String.ofList name))
          ((congrArg (removeSuffix · ".backup".toList) stem).trans (removeSuffix_append _ _))
      · exact suffix

end

/-! ### What is listed -/

/-- The files of a folder that the list looks at. -/
structure Files (folder : String) where
  keys : List String
  inFolder : ∀ key ∈ keys, ∃ file : FileName, key = keyOf folder file.name

/-- The bucket during a run: the files before it, and the keys that it stored. -/
structure Bucket (folder : String) where
  before : Files folder
  stored : List String

def Bucket.keys {folder : String} (bucket : Bucket folder) : List String := bucket.before.keys ++ bucket.stored

/-- The pages of a listing: each key of the bucket once, among keys that the list
    does not look at, such as the pieces of the data. -/
def Lists (pages : List (Option (List String))) (keys : List String) : Prop :=
  (pageKeys pages).Nodup ∧ ∀ key, Named key → (key ∈ pageKeys pages ↔ key ∈ keys)

theorem named_of_id {key id : String}
    (found : metadataId key = some id ∨ checksumId key = some id ∨ logId key = some id) : Named key := by
  rcases found with found | found | found
  · unfold metadataId at found
    split at found
    · rename_i isMetadata
      exact .inl isMetadata.1
    · cases found
  · unfold checksumId at found
    split at found
    · exact .inr (.inl ‹_›)
    · cases found
  · unfold logId at found
    split at found
    · exact .inr (.inr ‹_›)
    · cases found

/-- The log of a backup is among the keys, under its name or the one that the
    operators of MySQL 8.0 gave it. -/
def Logged (folder : String) (t : Moment) (keys : List String) : Prop :=
  fileKey folder t ".log" ∈ keys ∨ fileKey folder t ".backup.log" ∈ keys

instance (folder : String) (t : Moment) (keys : List String) : Decidable (Logged folder t keys) :=
  inferInstanceAs (Decidable (_ ∨ _))

section
variable {folder : String} {t : Moment} {keys : List String} {pages : List (Option (List String))}
variable (files : ∀ key ∈ keys, ∃ file : FileName, key = keyOf folder file.name) (lists : Lists pages keys)
include files lists

/-- An identifier that the listing finds comes from a file of the folder. -/
theorem file_of_listed {key id : String} (listed : key ∈ pageKeys pages)
    (found : metadataId key = some id ∨ checksumId key = some id ∨ logId key = some id) :
    ∃ file : FileName, key = keyOf folder file.name :=
  files key ((lists.2 key (named_of_id found)).mp listed)

theorem checksum_listed : ((pageKeys pages).filterMap checksumId).contains (idOf t) =
    decide (fileKey folder t ".md5" ∈ keys) := by
  rw [List.contains_eq_mem,decide_eq_decide,List.mem_filterMap]
  constructor
  · rintro ⟨key,listed,found⟩
    obtain ⟨file,rfl⟩ := file_of_listed files lists listed (.inr (.inl found))
    rw [← (checksumId_iff file).mp found]
    exact (lists.2 _ (named_of_id (.inr (.inl found)))).mp listed
  · intro member
    obtain ⟨file,same⟩ := files _ member
    have found : checksumId (fileKey folder t ".md5") = some (idOf t) := by
      rw [same,checksumId_iff,same]
    exact ⟨_,(lists.2 _ (named_of_id (.inr (.inl found)))).mpr member,found⟩

theorem log_listed : ((pageKeys pages).filterMap logId).contains (idOf t) = decide (Logged folder t keys) := by
  rw [List.contains_eq_mem,decide_eq_decide,List.mem_filterMap]
  constructor
  · rintro ⟨key,listed,found⟩
    obtain ⟨file,rfl⟩ := file_of_listed files lists listed (.inr (.inr found))
    have member := (lists.2 _ (named_of_id (.inr (.inr found)))).mp listed
    rcases (logId_iff file).mp found with same | same
    · exact .inl (same ▸ member)
    · exact .inr (same ▸ member)
  · rintro (member | member)
    all_goals
      obtain ⟨file,same⟩ := files _ member
      have found := (logId_iff (t := t) file).mpr (by rw [← same]; simp)
      rw [← same] at found
      exact ⟨_,(lists.2 _ (named_of_id (.inr (.inr found)))).mpr member,found⟩

/-- A backup with metadata is listed once, with the status that its files give. -/
theorem backup_listed (member : fileKey folder t ".metadata" ∈ keys) :
    (collectBackups pages).filter (fun backup => backup.id = idOf t) =
      [BackupInfo.fromStorage (idOf t) (fileKey folder t ".md5" ∈ keys) (Logged folder t keys)] := by
  obtain ⟨file,same⟩ := files _ member
  have found : metadataId (fileKey folder t ".metadata") = some (idOf t) := by
    rw [same,metadataId_iff,same]
  have listed := (lists.2 _ (named_of_id (.inl found))).mpr member
  rw [collectBackups_single lists.1 listed,checksum_listed files lists,log_listed files lists]
  intro key listed
  constructor
  · intro named
    obtain ⟨file,rfl⟩ := file_of_listed files lists listed (.inl named)
    exact (metadataId_iff file).mp named
  · rintro rfl
    exact found

end

/-- An identifier is listed once, and as finished exactly if its checksum is there;
    otherwise as failed. -/
def Shows (folder : String) (t : Moment) (keys : List String) : Prop :=
  ∀ pages, Lists pages keys → (collectBackups pages).filter (fun backup => backup.id = idOf t) =
    [⟨idOf t,if fileKey folder t ".md5" ∈ keys then .finished else .failed⟩]

/-- A list of the keys that are there, each once. -/
theorem lists_dedup (keys : List String) : Lists [some keys.dedup] keys := by
  simp [Lists,pageKeys,List.nodup_dedup]

theorem shows_iff {folder : String} {t : Moment} {keys : List String}
    (files : ∀ key ∈ keys, ∃ file : FileName, key = keyOf folder file.name)
    (member : fileKey folder t ".metadata" ∈ keys) :
    Shows folder t keys ↔ fileKey folder t ".md5" ∈ keys ∨ Logged folder t keys := by
  have status : ∀ checksum logFile : Prop, [Decidable checksum] → [Decidable logFile] →
      (([BackupInfo.fromStorage (idOf t) checksum logFile] : List BackupInfo) =
        [⟨idOf t,if checksum then .finished else .failed⟩] ↔ checksum ∨ logFile) := by
    intro checksum logFile _ _
    by_cases h : checksum <;> by_cases h' : logFile <;> simp [BackupInfo.fromStorage,h,h']
  constructor
  · intro shows
    have shown := shows _ (lists_dedup keys)
    rw [backup_listed files (lists_dedup keys) member] at shown
    exact (status _ _).mp shown
  · intro stored pages lists
    rw [backup_listed files lists member]
    exact (status _ _).mpr stored

/-! ### The storage during a run -/

/-- The folder that the backups of a manager go to. -/
def folderOf (m : BackupManager) : String := ((m.storage.map BackupStorage.bucketPath).getD "")

/-- The key that a call may store: the one of an upload, and the checksum of the
    process that reads the output of another (`xbcloud`). -/
def storedKey : Call → Option String
  | .uploadFile _ (some _) key => some key
  | .startProcess command _ (some _) => command.getLast?.map (fun name => name ++ ".md5")
  | _ => none

/-- Whether the call stored its key. An upload that raises may have taken effect;
    a process that was started stores the checksum at its end, or does not. -/
def storesKey : (c : Call) → Except Exn (Reply c) → Bool → Bool
  | .uploadFile _ _ _, .ok _, _ => true
  | .uploadFile _ _ _, .error _, happened => happened
  | _, .ok _, happened => happened
  | _, .error _, _ => false

/-- The storage in a run; without a file, an upload raises. -/
def bucketRules (folder : String) : Rules (Bucket folder) Call Reply Exn where
  answer _ c r := match c, r with
    | .uploadFile _ none _, .ok _ => .error ⟨.valueError,"Filename must be a string or a path-like object"⟩
    | _, r => r
  effect bucket c r happened :=
    if storesKey c r happened then { bucket with stored := bucket.stored ++ (storedKey c).toList } else bucket

/-- A program stores keys of one kind only. -/
def StoresOnly (kind : String → Prop) {α : Type} (p : Hook α) : Prop :=
  Avoids (fun c => ∃ key, storedKey c = some key ∧ ¬ kind key) p

section
variable {folder : String} (script : Script Call Reply Exn)

/-- The run leaves every other key as it was. -/
theorem stores_only {kind : String → Prop} {α : Type} {p : Hook α} (only : StoresOnly kind p) {key : String}
    (other : ¬ kind key) (s : Scene (Bucket folder) Call) :
    key ∈ (exec (bucketRules folder) script p s).2.world.stored ↔ key ∈ s.world.stored := by
  refine iff_of_eq (run_keeps _ _ (fun bucket : Bucket folder => key ∈ bucket.stored) ?_ only s)
  intro bucket c r happened fine
  simp only [bucketRules]
  split
  · have different : storedKey c ≠ some key := fun same => fine ⟨key,same,other⟩
    rcases stored : storedKey c with _ | k
    · simp
    · have : key ≠ k := by rintro rfl; exact different stored
      simp [this]
  · rfl

end

theorem storesOnly_mono {kind wider : String → Prop} (more : ∀ key, kind key → wider key) {α : Type} {p : Hook α}
    (only : StoresOnly kind p) : StoresOnly wider p :=
  avoids_mono (fun _ ⟨key,stored,other⟩ => ⟨key,stored,mt (more key) other⟩) only

theorem storesOnly_of_attends (kind : String → Prop) {α : Type} {p : Hook α} (inside : Avoids (Outside attends) p) :
    StoresOnly kind p := by
  refine avoids_mono (fun c ⟨key,stored,_⟩ => ?_) inside
  unfold storedKey at stored
  split at stored
  · rfl
  · rfl
  · cases stored

theorem storesOnly_ask {kind : String → Prop} {c : Call} (only : ∀ key, storedKey c = some key → kind key) :
    StoresOnly kind (ask c) :=
  avoids_ask fun ⟨key,stored,other⟩ => other (only key stored)

theorem storesOnly_uploadFile (m : BackupManager) (contents path : String) :
    StoresOnly (fun key => key = path) (uploadFile m contents path) := by
  have inert : ∀ c, storedKey c = none → ¬ ∃ key, storedKey c = some key ∧ ¬ key = path := by
    rintro c none ⟨key,stored,_⟩
    rw [none] at stored
    cases stored
  refine avoids_bind (avoids_getStorage m) fun storage => ?_
  refine avoids_temporaryFile (fun _ => inert _ rfl) (fun _ => inert _ rfl) fun caChainFile => ?_
  refine avoids_temporaryFile (fun _ => inert _ rfl) (fun _ => inert _ rfl) fun contentsFile => ?_
  refine avoids_bind (avoids_ask (inert _ rfl)) fun _ => storesOnly_ask fun key stored => ?_
  cases contentsFile with
  | none => cases stored
  | some file => exact (Option.some.inj stored).symm

theorem storesOnly_makeBackup (m : BackupManager) (backupPath password : String) :
    StoresOnly (fun key => key = backupPath ++ ".md5") (makeBackup m backupPath password) := by
  have inert : ∀ c, storedKey c = none → ¬ ∃ key, storedKey c = some key ∧ ¬ key = backupPath ++ ".md5" := by
    rintro c none ⟨key,stored,_⟩
    rw [none] at stored
    cases stored
  have directory : ∀ dirPrefix, StoresOnly (fun key => key = backupPath ++ ".md5") (createTemporaryDir m dirPrefix) :=
    fun dirPrefix => avoids_bind (avoids_ask (inert _ rfl)) fun _ => avoids_bind (avoids_ask (inert _ rfl))
      (fun _ => trivial)
  refine avoids_bind (storesOnly_of_attends _ (attends_of_quiet (quiet_setUnitStatus _))) fun _ => ?_
  refine avoids_bind ?_ (fun _ => trivial)
  refine avoids_bind (avoids_ask (inert _ rfl)) fun cores => avoids_bind ?_ fun caChainPath => ?_
  · refine avoids_bind (avoids_getStorage m) fun storage => ?_
    split
    · trivial
    · exact avoids_bind (directory _) fun _ => avoids_bind (avoids_ask (inert _ rfl)) (fun _ => trivial)
  refine avoids_bind (directory _) fun dir => avoids_bind (avoids_getStorage m) fun storage => ?_
  refine avoids_bind (avoids_executeAsync (inert _ rfl) (fun _ => inert _ rfl) fun backup => ?_) fun output => ?_
  · refine avoids_executeAsync ?_ (fun _ => inert _ rfl) fun upload => ?_
    · rintro ⟨key,stored,other⟩
      simp only [storedKey,uploadCommand,List.getLast?_concat,Option.map_some,Option.some.injEq] at stored
      exact other stored.symm
    · exact avoids_bind (avoids_ask (inert _ rfl)) fun _ => avoids_bind (avoids_ask (inert _ rfl)) fun _ =>
        avoids_bind (avoids_ask (inert _ rfl)) (fun _ => trivial)
  · split <;> trivial

theorem storesOnly_storeLog (m : BackupManager) (backupPath output : String) :
    StoresOnly (fun key => key = backupPath ++ ".log") (storeLog m backupPath output) :=
  avoids_bind (storesOnly_uploadFile _ _ _) fun _ =>
    storesOnly_of_attends _ (avoids_bind (inside_ask rfl) (fun _ => trivial))

/-- The path of the backup of a moment. -/
def backupPathOf (m : BackupManager) (t : Moment) : String := folderOf m ++ "/" ++ idOf t

theorem fileKey_eq (m : BackupManager) (t : Moment) (ending : String) :
    fileKey (folderOf m) t ending = backupPathOf m t ++ ending := by
  refine String.toList_inj.mp ?_
  simp [fileKey,keyOf,backupPathOf,idOf]

theorem returns_getStorage (m : BackupManager) : Returns (fun storage => m.storage = some storage) (getStorage m) := by
  unfold getStorage
  split
  · trivial
  · assumption

/-- The upload of the metadata stores one file of the folder at most, and ends with
    the path that it belongs to. -/
theorem uploadMetadata_stores (charm : Charm) (m : BackupManager) (t : Moment) :
    StoresOnly (fun key => key = fileKey (folderOf m) t ".metadata") (uploadMetadata charm m (idOf t)) ∧
      Returns (fun path => ∀ p, path = some p → p = backupPathOf m t ∧ m.storage.isSome = true)
        (uploadMetadata charm m (idOf t)) := by
  have fails : ∀ {α : Type} (message : String),
      Avoids (Outside attends) (do ask (.fail message); pure none : Hook (Option α)) :=
    fun message => avoids_bind (inside_ask rfl) (fun _ => trivial)
  have built : Returns (fun built => ∀ path metadata, built = some (path,metadata) →
      path = backupPathOf m t ∧ m.storage.isSome = true)
      ((do
        let storage ← getStorage m
        let metadata ← buildBackupMetadata charm (idOf t)
        pure (some (storage.bucketPath ++ "/" ++ idOf t,metadata)) : Hook (Option (String × String))).tryExcept
        Exn.isRuntimeError fun e => do
          ask (.fail ("Failed to build metadata: " ++ e.text))
          pure none) := by
    refine returns_handle (P := fun built => ∀ path metadata, built = some (path,metadata) →
      path = backupPathOf m t ∧ m.storage.isSome = true) ?_ ?_ ?_
    · refine returns_bind (returns_getStorage m) fun storage configured => returns_bind_true fun metadata => ?_
      rintro path _ same
      simp only [Option.some.injEq,Prod.mk.injEq] at same
      exact ⟨by simp [← same.1,backupPathOf,folderOf,configured],by rw [configured]; rfl⟩
    · exact fun _ known => known
    · intro e
      split
      · exact returns_bind_true fun _ _ _ same => nomatch same
      · trivial
  constructor
  · refine avoids_bind_returns (storesOnly_of_attends _ ?_) built fun result known => ?_
    · refine avoids_tryExcept (avoids_bind (avoids_getStorage m) fun _ => avoids_bind ?_ (fun _ => trivial))
        (fun _ => fails _)
      exact avoids_bind (inside_ask rfl) fun _ => avoids_bind (inside_ask rfl) (fun _ => trivial)
    · split
      · trivial
      · rename_i path metadata
        rw [(known path metadata rfl).1,fileKey_eq]
        exact avoids_tryElse (storesOnly_uploadFile _ _ _) (fun _ => storesOnly_of_attends _ (fails _))
          (fun _ => trivial)
  · refine returns_bind built fun result known => ?_
    split
    · exact fun _ same => nomatch same
    · rename_i path metadata
      refine returns_handle (returns_true _) (fun _ _ p same => ?_) (fun e => ?_)
      · rw [← Option.some.inj same]
        exact known path metadata rfl
      · split
        · exact returns_bind_true fun _ _ same => nomatch same
        · trivial

theorem prepare_stores (charm : Charm) (m : BackupManager) (force : Bool) :
    StoresOnly (fun key => ∃ t, key = fileKey (folderOf m) t ".metadata") (prepare charm m force) ∧
      Returns (fun ready => ∀ requestTime path, ready = some (requestTime,path) →
        (∃ t, requestTime = idOf t ∧ path = backupPathOf m t) ∧ m.storage.isSome = true) (prepare charm m force) := by
  have skips : ∀ reason, Avoids (Outside attends) (do skip reason; pure none : Hook (Option (String × String))) :=
    fun reason => avoids_bind (inside_ask rfl) (fun _ => trivial)
  have none_ready : ∀ reason, Returns (fun ready => ∀ requestTime path, ready = some (requestTime,path) →
      (∃ t, requestTime = idOf t ∧ path = backupPathOf m t) ∧ m.storage.isSome = true)
      (do skip reason; pure none : Hook (Option (String × String))) :=
    fun reason => returns_bind_true fun _ _ _ same => nomatch same
  constructor
  · refine avoids_bind (storesOnly_of_attends _ (inside_ask rfl)) fun related => ?_
    refine avoids_ite _ (fun _ => ?_) (fun _ => storesOnly_of_attends _ (skips _))
    refine avoids_bind (storesOnly_of_attends _ (attends_of_quiet (quiet_initialized charm))) fun ready => ?_
    refine avoids_ite _ (fun _ => ?_) (fun _ => storesOnly_of_attends _ (skips _))
    refine avoids_bind (storesOnly_of_attends _ (inside_ask rfl)) fun refreshing => ?_
    refine avoids_ite _ (fun _ => storesOnly_of_attends _ (skips _)) fun _ => ?_
    refine avoids_bind (storesOnly_of_attends _ (attends_runChecks force)) fun passed => ?_
    refine avoids_ite _ (fun _ => ?_) (fun _ => trivial)
    refine avoids_bind (storesOnly_of_attends _ (inside_ask rfl)) fun t => avoids_bind ?_ (fun _ => trivial)
    exact storesOnly_mono (fun key same => ⟨t,same⟩) (uploadMetadata_stores charm m t).1
  · refine returns_bind_true fun related => ?_
    split
    · refine returns_bind_true fun ready => ?_
      split
      · refine returns_bind_true fun refreshing => ?_
        split
        · exact none_ready _
        · refine returns_bind_true fun passed => ?_
          split
          · refine returns_bind_true fun t => returns_bind (uploadMetadata_stores charm m t).2 ?_
            rintro path known _ p same
            obtain ⟨q,found,pair⟩ := Option.map_eq_some_iff.mp same
            obtain ⟨time,path⟩ := Prod.mk.inj pair
            exact ⟨⟨t,time.symm,by rw [← (known q found).1,path]⟩,(known q found).2⟩
          · exact fun _ _ same => nomatch same
      · exact none_ready _
    · exact none_ready _

/-! ### The files of one run -/

section
variable {folder : String} (script : Script Call Reply Exn) (charm : Charm) (m : BackupManager)

abbrev inBucket {α : Type} (p : Hook α) (s : Scene (Bucket folder) Call) : Except Exn α × Scene (Bucket folder) Call :=
  exec (bucketRules folder) script p s

/-- From here on the action fetches the password and makes the backup, and `xbcloud`
    stores the checksum. -/
def ChecksumStored (backupPath : String) (s : Scene (Bucket folder) Call) : Prop :=
  ∃ password s₁, inBucket script (SecretStore.getValue (secretLabel charm) passwordKeyBackups) s = (.ok password,s₁) ∧
    backupPath ++ ".md5" ∈ (inBucket script (makeBackup m backupPath password) s₁).2.world.stored

/-- From here on the action makes the backup, `create_backup` returns, and the
    upload of the log takes effect. -/
def LogStored (backupPath : String) (s : Scene (Bucket folder) Call) : Prop :=
  ∃ password s₁ output s₂,
    inBucket script (SecretStore.getValue (secretLabel charm) passwordKeyBackups) s = (.ok password,s₁) ∧
    inBucket script (makeBackup m backupPath password) s₁ = (.ok output,s₂) ∧
    backupPath ++ ".log" ∈ (inBucket script (uploadFile m output (backupPath ++ ".log")) s₂).2.world.stored

variable (backupPath : String) (s : Scene (Bucket folder) Call)

theorem attends_keeps {α : Type} {p : Hook α} (inside : Avoids (Outside attends) p) (key : String)
    (s : Scene (Bucket folder) Call) : key ∈ (inBucket script p s).2.world.stored ↔ key ∈ s.world.stored :=
  stores_only script (storesOnly_of_attends (fun _ => False) inside) id s

/-- What only attends to a result stores nothing. -/
theorem bind_keeps {α β : Type} {p : Hook α} {f : α → Hook β} (quiet : ∀ a, StoresOnly (fun _ => False) (f a))
    (key : String) (s : Scene (Bucket folder) Call) :
    key ∈ (inBucket script (p >>= f) s).2.world.stored ↔ key ∈ (inBucket script p s).2.world.stored := by
  unfold inBucket exec
  rw [run_bind]
  rcases run (respond (bucketRules folder) script) p s with ⟨e | a,s'⟩
  · exact Iff.rfl
  · exact stores_only script (quiet a) id s'

/-- Handlers that only report store nothing. -/
theorem tryElse_keeps {α β : Type} {p : Hook α} {catches : Exn → Bool} {handler : Exn → Hook β} {orElse : α → Hook β}
    (inside : ∀ e, Avoids (Outside attends) (handler e)) (key : String) (s : Scene (Bucket folder) Call) :
    key ∈ (inBucket script (p.tryElse catches handler orElse) s).2.world.stored ↔
      match inBucket script p s with
      | (.ok a,s') => key ∈ (inBucket script (orElse a) s').2.world.stored
      | (.error _,s') => key ∈ s'.world.stored := by
  unfold inBucket exec
  rw [run_tryElse]
  rcases run (respond (bucketRules folder) script) p s with ⟨e | a,s'⟩
  · simp only
    split
    · exact attends_keeps script (inside e) key s'
    · exact Iff.rfl
  · exact Iff.rfl

theorem body_keeps (key : String) : key ∈ (inBucket script (backupBody charm m backupPath) s).2.world.stored ↔
    match inBucket script (SecretStore.getValue (secretLabel charm) passwordKeyBackups) s with
    | (.error _,_) => key ∈ s.world.stored
    | (.ok password,s₁) =>
      match inBucket script (makeBackup m backupPath password) s₁ with
      | (.error _,s₂) => key ∈ s₂.world.stored
      | (.ok output,s₂) => key ∈ (inBucket script (storeLog m backupPath output) s₂).2.world.stored := by
  have fetched := attends_keeps script (attends_getValue (secretLabel charm) passwordKeyBackups) key s
  have ran : inBucket script (backupBody charm m backupPath) s = _ := run_bind _ _ _ _
  rw [ran,show run (respond (bucketRules folder) script)
    (SecretStore.getValue (secretLabel charm) passwordKeyBackups) s =
    inBucket script (SecretStore.getValue (secretLabel charm) passwordKeyBackups) s from rfl]
  rcases value : inBucket script (SecretStore.getValue (secretLabel charm) passwordKeyBackups) s with ⟨e | password,s₁⟩
  · rw [value] at fetched
    exact fetched
  simp only
  rw [tryElse_keeps script (fun _ => attends_failAndReturn _) key s₁]
  rcases inBucket script (makeBackup m backupPath password) s₁ with ⟨e | output,s₂⟩
  · exact Iff.rfl
  simp only
  rw [tryElse_keeps script (fun _ => attends_failAndReturn _) key s₂]
  rcases inBucket script (storeLog m backupPath output) s₂ with ⟨e | u,s₃⟩ <;> exact Iff.rfl

theorem storeLog_keeps (key output : String) : key ∈ (inBucket script (storeLog m backupPath output) s).2.world.stored ↔
    key ∈ (inBucket script (uploadFile m output (backupPath ++ ".log")) s).2.world.stored :=
  bind_keeps script (fun _ => storesOnly_of_attends _ (avoids_bind (inside_ask rfl) (fun _ => avoids_ret _))) key s

theorem endings_apart (path path' : String) : path ++ ".md5" ≠ path' ++ ".log" ∧
    path ++ ".md5" ≠ path' ++ ".metadata" ∧ path ++ ".log" ≠ path' ++ ".metadata" := by
  refine ⟨fun same => ?_,fun same => ?_,fun same => ?_⟩ <;>
    · have := congrArg (fun text => text.toList.getLast?) same
      simp at this

theorem body_checksum (fresh : backupPath ++ ".md5" ∉ s.world.stored) :
    backupPath ++ ".md5" ∈ (inBucket script (backupBody charm m backupPath) s).2.world.stored ↔
      ChecksumStored script charm m backupPath s := by
  rw [body_keeps]
  unfold ChecksumStored
  rcases inBucket script (SecretStore.getValue (secretLabel charm) passwordKeyBackups) s with ⟨e | password,s₁⟩
  · simp [fresh]
  have known : (∃ password' s', ((.ok password,s₁) : Except Exn String × Scene (Bucket folder) Call) =
      (.ok password',s') ∧
        backupPath ++ ".md5" ∈ (inBucket script (makeBackup m backupPath password') s').2.world.stored) ↔
      backupPath ++ ".md5" ∈ (inBucket script (makeBackup m backupPath password) s₁).2.world.stored := by
    constructor
    · rintro ⟨_,_,same,stored⟩; cases same; exact stored
    · exact fun stored => ⟨password,s₁,rfl,stored⟩
  rw [known]
  simp only
  rcases inBucket script (makeBackup m backupPath password) s₁ with ⟨e | output,s₂⟩
  · exact Iff.rfl
  · exact stores_only script (storesOnly_storeLog m backupPath output) (endings_apart _ _).1 s₂

theorem body_log (fresh : backupPath ++ ".log" ∉ s.world.stored) :
    backupPath ++ ".log" ∈ (inBucket script (backupBody charm m backupPath) s).2.world.stored ↔
      LogStored script charm m backupPath s := by
  have fetched := attends_keeps script (attends_getValue (secretLabel charm) passwordKeyBackups)
    (backupPath ++ ".log") s
  rw [body_keeps]
  unfold LogStored
  rcases value : inBucket script (SecretStore.getValue (secretLabel charm) passwordKeyBackups) s with ⟨e | password,s₁⟩
  · simp [fresh]
  rw [value] at fetched
  have made := stores_only script (storesOnly_makeBackup m backupPath password)
    (endings_apart backupPath backupPath).1.symm s₁
  have fresh₁ := mt fetched.mp fresh
  simp only
  rcases backup : inBucket script (makeBackup m backupPath password) s₁ with ⟨e | output,s₂⟩
  · rw [show exec (bucketRules folder) script (makeBackup m backupPath password) s₁ = _ from backup] at made
    refine iff_of_false (mt made.mp fresh₁) ?_
    rintro ⟨_,_,_,_,same,other,_⟩
    cases same
    rw [backup] at other
    cases other
  · simp only
    rw [storeLog_keeps]
    constructor
    · exact fun stored => ⟨password,s₁,output,s₂,rfl,backup,stored⟩
    · rintro ⟨_,_,_,_,same,again,stored⟩
      cases same
      rw [backup] at again
      cases again
      exact stored

/-- The isolation of the instance stores nothing. -/
theorem isolate_keeps {key : String} (fresh : key ∉ s.world.stored) (body : Hook Flow) :
    key ∈ (inBucket script (isolateInstance body) s).2.world.stored ↔
      ∃ mode s', inBucket script enterIsolation s = (.ok mode,s') ∧ key ∈ (inBucket script body s').2.world.stored := by
  have entered := attends_keeps script attends_enterIsolation key s
  have ran : inBucket script (isolateInstance body) s = _ := run_bind _ _ _ _
  rw [ran,show run (respond (bucketRules folder) script) enterIsolation s =
    inBucket script enterIsolation s from rfl]
  rcases enter : inBucket script enterIsolation s with ⟨e | mode,s₁⟩ <;> rw [enter] at entered
  · simpa [fresh] using entered
  have known : (∃ mode' s', ((.ok mode,s₁) : Except Exn Isolation × Scene (Bucket folder) Call) =
      (.ok mode',s') ∧ key ∈ (inBucket script body s').2.world.stored) ↔
      key ∈ (inBucket script body s₁).2.world.stored := by
    constructor
    · rintro ⟨_,_,same,stored⟩; cases same; exact stored
    · exact fun stored => ⟨mode,s₁,rfl,stored⟩
  rw [known]
  cases mode with
  | alone => exact Iff.rfl
  | failed => exact Iff.rfl
  | isolated =>
    have left : ∀ (flow : Flow) (s₂ : Scene (Bucket folder) Call),
        key ∈ (inBucket script (do leaveIsolation; pure flow : Hook Flow) s₂).2.world.stored ↔ key ∈ s₂.world.stored :=
      fun flow s₂ => attends_keeps script (avoids_bind attends_leaveIsolation (fun _ => avoids_ret _)) key s₂
    simp only
    rw [run_bind,run_tryExcept,
      show run (respond (bucketRules folder) script) body s₁ = inBucket script body s₁ from rfl]
    rcases inBucket script body s₁ with ⟨e | flow,s₂⟩
    · simp only
      cases e.isException with
      | true => exact left .continues s₂
      | false => exact Iff.rfl
    · exact left flow s₂

theorem storesOnly_body : StoresOnly (fun key => key = backupPath ++ ".md5" ∨ key = backupPath ++ ".log")
    (backupBody charm m backupPath) :=
  avoids_bind (storesOnly_of_attends _ (attends_getValue _ _)) fun _ =>
    avoids_tryElse (storesOnly_mono (fun _ => .inl) (storesOnly_makeBackup _ _ _))
      (fun _ => storesOnly_of_attends _ (attends_failAndReturn _)) fun _ =>
      avoids_tryElse (storesOnly_mono (fun _ => .inr) (storesOnly_storeLog _ _ _))
        (fun _ => storesOnly_of_attends _ (attends_failAndReturn _)) (fun _ => trivial)

end

section
variable (script : Script Call Reply Exn) (charm : Charm) (m : BackupManager) (force : Bool)
variable (files : Files (folderOf m))

/-- The bucket after the action. -/
def final : Bucket (folderOf m) :=
  (play (bucketRules (folderOf m)) script (onCreateBackup charm m force) ⟨files,[]⟩).2.world

/-- The body of the `with` statement begins in a scene. -/
def BodyBegins (backupPath : String) (s : Scene (Bucket (folderOf m)) Call) : Prop :=
  ∃ mode, Begins (bucketRules (folderOf m)) script charm m force ⟨files,[]⟩ backupPath mode s

/-- The list tells the truth about the backups whose metadata the action uploaded. -/
def Truthful : Prop := ∀ t, fileKey (folderOf m) t ".metadata" ∈ (final script charm m force files).stored →
  Shows (folderOf m) t (final script charm m force files).keys

section
variable {charm m force files} {key : String} (other : ∀ t, key ≠ fileKey (folderOf m) t ".metadata")
include other

/-- Before the body, the run stores metadata only. -/
theorem fresh_prepared :
    key ∉ (play (bucketRules (folderOf m)) script (prepare charm m force) ⟨files,[]⟩).2.world.stored :=
  (stores_only script (prepare_stores charm m force).1 (fun ⟨t,same⟩ => other t same) ⟨⟨files,[]⟩,[]⟩).not.mpr (by simp)

theorem fresh_body {path : String} {s : Scene (Bucket (folderOf m)) Call}
    (begins : BodyBegins script charm m force files path s) : key ∉ s.world.stored := by
  obtain ⟨mode,requestTime,s₀,prepares,entered⟩ := begins
  have fresh := @fresh_prepared script charm m force files key other
  have kept := attends_keeps script attends_enterIsolation key s₀
  rw [prepares] at fresh
  rw [show inBucket script enterIsolation s₀ = _ from entered] at kept
  exact mt kept.mp fresh

/-- What a run stores apart from the metadata, it stores in the body. -/
theorem stored_iff_body : key ∈ (final script charm m force files).stored ↔
    ∃ path s, BodyBegins script charm m force files path s ∧
      key ∈ (inBucket script (backupBody charm m path) s).2.world.stored := by
  have fresh := @fresh_prepared script charm m force files key other
  have ran : play (bucketRules (folderOf m)) script (onCreateBackup charm m force) ⟨files,[]⟩ = _ := run_bind _ _ _ _
  unfold final BodyBegins Begins
  rw [ran,show run (respond (bucketRules (folderOf m)) script) (prepare charm m force) ⟨⟨files,[]⟩,[]⟩ =
    play (bucketRules (folderOf m)) script (prepare charm m force) ⟨files,[]⟩ from rfl]
  rcases prepares : play (bucketRules (folderOf m)) script (prepare charm m force) ⟨files,[]⟩ with ⟨e | ready,s₀⟩ <;>
    rw [prepares] at fresh
  · simpa using fresh
  rcases ready with _ | ⟨requestTime,path⟩
  · simpa using fresh
  refine (bind_keeps script ?_ key s₀).trans ((isolate_keeps script s₀ fresh (backupBody charm m path)).trans ?_)
  · rintro (_ | _)
    · trivial
    · exact storesOnly_ask (fun _ stored => nomatch stored)
  constructor
  · rintro ⟨mode,s,entered,stored⟩
    exact ⟨path,s,⟨mode,requestTime,s₀,rfl,entered⟩,stored⟩
  · rintro ⟨_,s,⟨mode,_,_,same,entered⟩,stored⟩
    cases same
    exact ⟨mode,s,entered,stored⟩

end

/-- The path of a body that begins is the one of a moment. -/
theorem path_of_body {path : String} {s : Scene (Bucket (folderOf m)) Call}
    (begins : BodyBegins script charm m force files path s) : ∃ t, path = backupPathOf m t := by
  obtain ⟨mode,requestTime,s₀,prepares,_⟩ := begins
  have returned := run_returns _ (prepare_stores charm m force).2 _ (congrArg Prod.fst prepares)
  obtain ⟨⟨t,_,same⟩,_⟩ := returned requestTime path rfl
  exact ⟨t,same⟩

variable (t : Moment)

theorem checksum_apart (u : Moment) : backupPathOf m t ++ ".md5" ≠ fileKey (folderOf m) u ".metadata" := by
  rw [fileKey_eq]
  exact (endings_apart _ _).2.1

theorem log_apart (u : Moment) : backupPathOf m t ++ ".log" ≠ fileKey (folderOf m) u ".metadata" := by
  rw [fileKey_eq]
  exact (endings_apart _ _).2.2

theorem checksum_stored_iff : fileKey (folderOf m) t ".md5" ∈ (final script charm m force files).stored ↔
    ∃ s, BodyBegins script charm m force files (backupPathOf m t) s ∧
      ChecksumStored script charm m (backupPathOf m t) s := by
  rw [fileKey_eq,stored_iff_body script (checksum_apart m t)]
  constructor
  · rintro ⟨path,s,begins,stored⟩
    have fresh := fresh_body script (checksum_apart m t) begins
    have same : path = backupPathOf m t := by
      by_contra other
      refine fresh ((stores_only script (storesOnly_body charm m path) ?_ s).mp stored)
      rintro (same | same)
      · exact other (by simpa using same.symm)
      · exact (endings_apart _ _).1 same
    subst same
    exact ⟨s,begins,(body_checksum script charm m _ s fresh).mp stored⟩
  · rintro ⟨s,begins,checksum⟩
    have fresh := fresh_body script (checksum_apart m t) begins
    exact ⟨_,s,begins,(body_checksum script charm m _ s fresh).mpr checksum⟩

theorem log_stored_iff : fileKey (folderOf m) t ".log" ∈ (final script charm m force files).stored ↔
    ∃ s, BodyBegins script charm m force files (backupPathOf m t) s ∧
      LogStored script charm m (backupPathOf m t) s := by
  rw [fileKey_eq,stored_iff_body script (log_apart m t)]
  constructor
  · rintro ⟨path,s,begins,stored⟩
    have fresh := fresh_body script (log_apart m t) begins
    have same : path = backupPathOf m t := by
      by_contra other
      refine fresh ((stores_only script (storesOnly_body charm m path) ?_ s).mp stored)
      rintro (same | same)
      · exact (endings_apart _ _).1 same.symm
      · exact other (by simpa using same.symm)
    subst same
    exact ⟨s,begins,(body_log script charm m _ s fresh).mp stored⟩
  · rintro ⟨s,begins,log⟩
    have fresh := fresh_body script (log_apart m t) begins
    exact ⟨_,s,begins,(body_log script charm m _ s fresh).mpr log⟩

/-- A backup never stores its log under the old name. -/
theorem oldLog_unstored : fileKey (folderOf m) t ".backup.log" ∉ (final script charm m force files).stored := by
  have apart : ∀ u, fileKey (folderOf m) t ".backup.log" ≠ fileKey (folderOf m) u ".metadata" := fun u same => by
    have := congrArg List.getLast? (fileKey_inj same)
    simp at this
  rw [stored_iff_body script apart]
  rintro ⟨path,s,begins,stored⟩
  obtain ⟨u,rfl⟩ := path_of_body script charm m force files begins
  refine fresh_body script apart begins ((stores_only script (storesOnly_body charm m _) ?_ s).mp stored)
  rw [← fileKey_eq,← fileKey_eq]
  rintro (same | same)
  · have := congrArg List.getLast? (fileKey_inj same)
    simp at this
  · have dates : strftime t ++ ".backup".toList = strftime u := by
      have := fileKey_inj same
      rw [show ".backup.log".toList = ".backup".toList ++ ".log".toList by decide,← List.append_assoc] at this
      exact List.append_cancel_right this
    refine (strftime_plain u).2.1 ?_
    rw [← dates]
    exact List.mem_append_right _ (by decide)

/-- What a run stores are files of the folder. -/
theorem stored_inFolder {key : String} (stored : key ∈ (final script charm m force files).stored) :
    ∃ file : FileName, key = keyOf (folderOf m) file.name := by
  by_cases isMetadata : ∃ t, key = fileKey (folderOf m) t ".metadata"
  · obtain ⟨t,rfl⟩ := isMetadata
    exact ⟨fileName t ".metadata".toList (by decide),rfl⟩
  have other := not_exists.mp isMetadata
  obtain ⟨path,s,begins,inBody⟩ := (stored_iff_body script other).mp stored
  obtain ⟨t,rfl⟩ := path_of_body script charm m force files begins
  have kind : key = backupPathOf m t ++ ".md5" ∨ key = backupPathOf m t ++ ".log" := by
    by_contra neither
    exact fresh_body script other begins ((stores_only script (storesOnly_body charm m _) neither s).mp inBody)
  rcases kind with rfl | rfl
  · exact ⟨fileName t ".md5".toList (by decide),(fileKey_eq m t ".md5").symm⟩
  · exact ⟨fileName t ".log".toList (by decide),(fileKey_eq m t ".log").symm⟩

theorem final_before : (final script charm m force files).before = files :=
  run_keeps (bucketRules (folderOf m)) script Bucket.before (fun bucket c r b _ => by
    simp only [bucketRules]; split <;> rfl) (avoids_of_never (onCreateBackup charm m force)) _

/-- The files of a run are those before it, the checksum and the log of the body. -/
theorem final_status (t : Moment) :
    (fileKey (folderOf m) t ".md5" ∈ (final script charm m force files).keys ∨
      Logged (folderOf m) t (final script charm m force files).keys) ↔
    (fileKey (folderOf m) t ".md5" ∈ files.keys ∨ Logged (folderOf m) t files.keys) ∨
      ∃ s, BodyBegins script charm m force files (backupPathOf m t) s ∧
        (ChecksumStored script charm m (backupPathOf m t) s ∨ LogStored script charm m (backupPathOf m t) s) := by
  -- both sides are the same alternatives in a different order
  simp only [Logged,Bucket.keys,List.mem_append,final_before,checksum_stored_iff,log_stored_iff,oldLog_unstored,
    or_false,and_or_left,exists_or]
  grind

end

/-- The list tells the truth about a run of create-backup if and only if the bucket
    already held the checksum or a log of the backup, or the run got to the backup
    and `xbcloud` stored the checksum or the upload of the log took effect. -/
theorem truthful_iff (script : Script Call Reply Exn) (charm : Charm) (m : BackupManager) (force : Bool)
    (files : Files (folderOf m)) : Truthful script charm m force files ↔
      ∀ t, fileKey (folderOf m) t ".metadata" ∈ (final script charm m force files).stored →
        (fileKey (folderOf m) t ".md5" ∈ files.keys ∨ Logged (folderOf m) t files.keys) ∨
        ∃ s, BodyBegins script charm m force files (backupPathOf m t) s ∧
          (ChecksumStored script charm m (backupPathOf m t) s ∨ LogStored script charm m (backupPathOf m t) s) := by
  have before : (final script charm m force files).before = files :=
    final_before script charm m force files
  have inFolder : ∀ key ∈ (final script charm m force files).keys,
      ∃ file : FileName, key = keyOf (folderOf m) file.name := by
    intro key member
    rcases List.mem_append.mp member with initial | stored
    · exact files.inFolder key (before ▸ initial)
    · exact stored_inFolder script charm m force files stored
  refine forall_congr' fun t => forall_congr' fun stored => ?_
  rw [shows_iff inFolder (List.mem_append_right _ stored),final_status]

/-- Two instances, an isolated instance, and an `xtrabackup` that fails. -/
def failedScript : Script Call Reply Exn where
  reply c n := match c with
    | .peekContent _ => .ok [(passwordKeyBackups,"password")]
    | .waitProcess _ => .ok 1
    | c => noPasswordScript.reply c n
  takesEffect _ _ := false

/-- The failed backup leaves its metadata alone in the bucket, and is in progress
    for ever. -/
theorem failedBackup_inProgress : ¬ Truthful failedScript backupUnit backupManager false ⟨[],nofun⟩ := by
  intro truthful
  have stored : (final failedScript backupUnit backupManager false ⟨[],nofun⟩).stored =
      [fileKey "backups" default ".metadata"] := by decide
  have before := final_before failedScript backupUnit backupManager false ⟨[],nofun⟩
  have keys : (final failedScript backupUnit backupManager false ⟨[],nofun⟩).keys =
      [fileKey "backups" default ".metadata"] := by
    rw [Bucket.keys,before,stored]
    rfl
  have shows := truthful default (by rw [stored]; exact List.mem_singleton.mpr rfl)
  rw [keys,shows_iff] at shows
  · revert shows
    decide
  · intro key member
    exact ⟨fileName default ".metadata".toList (by decide),List.mem_singleton.mp member⟩
  · exact List.mem_singleton.mpr rfl

end MysqlOperators.BackupListing
