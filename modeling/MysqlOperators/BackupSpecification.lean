import MysqlOperators.BackupListing
import Mathlib.Data.List.Perm.Basic

/-!
The list of backups against its specification. The loop of `collect_backups` cuts
names into stems and suffixes; what it lists is said here in terms of whole names.
-/
namespace MysqlOperators.BackupSpecification
open MysqlOperators.Python MysqlOperators.Backup MysqlOperators.BackupListing

/-! ### The specification -/

/-- The last component of a key is an identifier with an ending. -/
def HasName (key id ending : String) : Prop := pathName key.toList = id.toList ++ ending.toList

/-- The identifier is in the format of timestamps. -/
def IsDate (id : String) : Prop := (strptime id.toList).isSome

instance (key id ending : String) : Decidable (HasName key id ending) := inferInstanceAs (Decidable (_ = _))

/-- The status of a backup, by the files that are there. -/
def statusOf (keys : List String) (id : String) : BackupStatus :=
  if ∃ key ∈ keys, HasName key id ".md5" then .finished
  else if ∃ key ∈ keys, HasName key id ".log" ∨ HasName key id ".backup.log" then .failed
  else .inProgress

/-- A key stands for an entry of the list. -/
def Lists (keys : List String) (key : String) (backup : BackupInfo) : Prop :=
  IsDate backup.id ∧ HasName key backup.id ".metadata" ∧ backup.status = statusOf keys backup.id

/-- The list is sorted, has one entry for each key that is the metadata of a backup,
    and no others. -/
structure Specified (keys : List String) (backups : List BackupInfo) : Prop where
  sorted : backups.Pairwise (fun a b => a.id ≤ b.id)
  entries : ∃ listed others, (listed ++ others).Perm keys ∧ List.Forall₂ (Lists keys) listed backups ∧
    ∀ key ∈ others, ∀ id, IsDate id → ¬ HasName key id ".metadata"

/-! ### Names -/

/-- A name is cut at its last dot. -/
theorem cut_iff {text stem extension : List Char} (nonempty : stem ≠ []) (plain : '.' ∉ extension)
    (long : extension ≠ []) : pathSuffix text = '.' :: extension ∧ pathStem text = stem ↔
      pathName text = stem ++ '.' :: extension := by
  constructor
  · rintro ⟨suffix,cut⟩
    rw [← stem_append_suffix,suffix,cut]
  · intro name
    have parts := splitSuffix_append nonempty plain long
    rw [pathSuffix,pathStem,name,parts]
    exact ⟨rfl,rfl⟩

theorem upTo_eq {separator : Char → Bool} {text before after : List Char}
    (found : upTo separator text = some (before,after)) :
    ∃ c, separator c = true ∧ text = before ++ c :: after := by
  induction text generalizing before with
  | nil => cases found
  | cons c rest ih =>
    by_cases here : separator c = true
    · simp only [upTo,here,if_true,Option.some.injEq,Prod.mk.injEq] at found
      obtain ⟨rfl,rfl⟩ := found
      exact ⟨c,here,rfl⟩
    · rw [upTo,if_neg here] at found
      cases later : upTo separator rest with
      | none =>
        rw [later] at found
        cases found
      | some parts =>
        obtain ⟨front,back⟩ := parts
        rw [later] at found
        cases found
        obtain ⟨d,separates,text⟩ := ih later
        exact ⟨d,separates,by rw [text]; rfl⟩

/-- A date ends with its time zone. -/
theorem date_ends {text : List Char} (date : (strptime text).isSome) : ∃ z, text.getLast? = some z ∧ isZ z = true := by
  obtain ⟨u,parsed⟩ := Option.isSome_iff_exists.mp date
  unfold strptime at parsed
  obtain ⟨⟨year,a⟩,inYear,parsed⟩ := Option.bind_eq_some_iff.mp parsed
  obtain ⟨⟨month,b⟩,inMonth,parsed⟩ := Option.bind_eq_some_iff.mp parsed
  obtain ⟨⟨day,c⟩,inDay,parsed⟩ := Option.bind_eq_some_iff.mp parsed
  obtain ⟨⟨hour,d⟩,inHour,parsed⟩ := Option.bind_eq_some_iff.mp parsed
  obtain ⟨⟨minute,e⟩,inMinute,parsed⟩ := Option.bind_eq_some_iff.mp parsed
  obtain ⟨⟨second,f⟩,inSecond,parsed⟩ := Option.bind_eq_some_iff.mp parsed
  -- the numbers do not matter here, only that nothing follows the zone
  obtain ⟨_,_,parsed⟩ := Option.bind_eq_some_iff.mp parsed
  obtain ⟨_,_,parsed⟩ := Option.bind_eq_some_iff.mp parsed
  obtain ⟨_,_,parsed⟩ := Option.bind_eq_some_iff.mp parsed
  obtain ⟨_,_,parsed⟩ := Option.bind_eq_some_iff.mp parsed
  obtain ⟨_,_,parsed⟩ := Option.bind_eq_some_iff.mp parsed
  obtain ⟨_,_,parsed⟩ := Option.bind_eq_some_iff.mp parsed
  have last : f = [] := by
    by_contra more
    simp [guard,more] at parsed
  obtain ⟨_,_,rfl⟩ := upTo_eq inYear
  obtain ⟨_,_,rfl⟩ := upTo_eq inMonth
  obtain ⟨_,_,rfl⟩ := upTo_eq inDay
  obtain ⟨_,_,rfl⟩ := upTo_eq inHour
  obtain ⟨_,_,rfl⟩ := upTo_eq inMinute
  obtain ⟨z,zone,rfl⟩ := upTo_eq inSecond
  exact ⟨z,by simp [last,List.getLast?_cons],zone⟩

theorem date_nonempty {text : List Char} (date : (strptime text).isSome) : text ≠ [] := by
  rintro rfl
  obtain ⟨z,last,_⟩ := date_ends date
  cases last

/-- No date ends like the name of an old log. -/
theorem removeSuffix_of_date {text : List Char} (date : (strptime text).isSome) :
    removeSuffix text ".backup".toList = text := by
  rw [removeSuffix,if_neg]
  intro isSuffix
  obtain ⟨before,rfl⟩ := List.isSuffixOf_iff_suffix.mp isSuffix
  obtain ⟨z,last,zone⟩ := date_ends date
  have ending : (before ++ ".backup".toList).getLast? = some 'p' := by simp
  rw [ending] at last
  cases last
  cases zone

/-! ### The three lists -/

section
variable {key id : String}

theorem metadataId_iff : metadataId key = some id ↔ IsDate id ∧ HasName key id ".metadata" := by
  have ending : ".metadata".toList = '.' :: "metadata".toList := rfl
  constructor
  · intro found
    unfold metadataId at found
    split at found
    · rename_i both
      have stem : id.toList = pathStem key.toList := by
        rw [← Option.some.inj found,String.toList_ofList]
      rw [IsDate,HasName,stem]
      exact ⟨both.2,both.1 ▸ (stem_append_suffix _).symm⟩
    · cases found
  · rintro ⟨date,name⟩
    rw [HasName,ending] at name
    obtain ⟨suffix,stem⟩ := (cut_iff (date_nonempty date) (by decide) (by decide)).mpr name
    rw [metadataId,if_pos]
    · rw [stem,String.ofList_toList]
    · rw [stem,ending]
      exact ⟨suffix,date⟩

theorem checksumId_iff (date : IsDate id) : checksumId key = some id ↔ HasName key id ".md5" := by
  have ending : ".md5".toList = '.' :: "md5".toList := rfl
  constructor
  · intro found
    unfold checksumId at found
    split at found
    · rename_i suffix
      rw [HasName,← Option.some.inj found,String.toList_ofList]
      exact suffix ▸ (stem_append_suffix _).symm
    · cases found
  · intro name
    rw [HasName,ending] at name
    obtain ⟨suffix,stem⟩ := (cut_iff (date_nonempty date) (by decide) (by decide)).mpr name
    rw [checksumId,if_pos]
    · rw [stem,String.ofList_toList]
    · rw [ending]
      exact suffix

theorem logId_iff (date : IsDate id) : logId key = some id ↔ HasName key id ".log" ∨ HasName key id ".backup.log" := by
  have ending : ".log".toList = '.' :: "log".toList := rfl
  have old : ".backup.log".toList = ".backup".toList ++ ".log".toList := rfl
  constructor
  · intro found
    unfold logId at found
    split at found
    · rename_i suffix
      have name := stem_append_suffix key.toList
      rw [suffix] at name
      have stem : removeSuffix (pathStem key.toList) ".backup".toList = id.toList :=
        String.toList_ofList.symm.trans (congrArg String.toList (Option.some.inj found))
      rcases removeSuffix_eq stem with plain | ended
      · left
        rw [HasName,← name,plain]
      · right
        rw [HasName,← name,ended,old,List.append_assoc]
    · cases found
  · rintro (name | name)
    · rw [HasName,ending] at name
      obtain ⟨suffix,stem⟩ := (cut_iff (date_nonempty date) (by decide) (by decide)).mpr name
      rw [logId,if_pos]
      · rw [stem,removeSuffix_of_date date,String.ofList_toList]
      · rw [ending]
        exact suffix
    · rw [HasName,old,← List.append_assoc,ending] at name
      have nonempty : id.toList ++ ".backup".toList ≠ [] := by simp
      obtain ⟨suffix,stem⟩ := (cut_iff nonempty (by decide) (by decide)).mpr name
      rw [logId,if_pos]
      · rw [stem,removeSuffix_append,String.ofList_toList]
      · rw [ending]
        exact suffix

end

/-! ### The list -/

section
variable {keys : List String}

/-- The entry of an identifier that the metadata names. -/
def entryOf (keys : List String) (id : String) : BackupInfo :=
  BackupInfo.fromStorage id ((keys.filterMap checksumId).contains id) ((keys.filterMap logId).contains id)

theorem listed_iff {f : String → Option String} {id : String} :
    (keys.filterMap f).contains id = true ↔ ∃ key ∈ keys, f key = some id := by
  rw [List.contains_iff_mem,List.mem_filterMap]

theorem entryOf_spec {id : String} (date : IsDate id) : entryOf keys id = ⟨id,statusOf keys id⟩ := by
  have checksum : (keys.filterMap checksumId).contains id = true ↔ ∃ key ∈ keys, HasName key id ".md5" := by
    simp only [listed_iff,checksumId_iff date]
  have log : (keys.filterMap logId).contains id = true ↔
      ∃ key ∈ keys, HasName key id ".log" ∨ HasName key id ".backup.log" := by
    simp only [listed_iff,logId_iff date]
  simp only [entryOf,BackupInfo.fromStorage,statusOf,checksum,log]
  split
  · rfl
  · split <;> rfl

theorem collectBackups_eq (pages : List (Option (List String))) :
    collectBackups pages = (((pageKeys pages).filterMap metadataId).map (entryOf (pageKeys pages))).insertionSort
      (fun a b => a.id ≤ b.id) := by
  unfold collectBackups
  rw [foldl_add_eq]
  rfl

theorem sorted_collectBackups (pages : List (Option (List String))) :
    (collectBackups pages).Pairwise (fun a b => a.id ≤ b.id) := by
  have total : Std.Total (fun a b : BackupInfo => a.id ≤ b.id) := ⟨fun a b => String.le_total a.id b.id⟩
  have trans : IsTrans BackupInfo (fun a b => a.id ≤ b.id) := ⟨fun _ _ _ => String.le_trans⟩
  rw [collectBackups_eq]
  exact List.pairwise_insertionSort _ _

/-- An entry for each key of metadata, one after the other. -/
theorem forall₂_entries (keys some_ : List String) :
    List.Forall₂ (fun backup key => Lists keys key backup) ((some_.filterMap metadataId).map (entryOf keys))
      (some_.filter fun key => (metadataId key).isSome) := by
  induction some_ with
  | nil => exact .nil
  | cons key rest ih =>
    cases found : metadataId key with
    | none =>
      rw [List.filterMap_cons_none found,List.filter_cons_of_neg (by simp [found])]
      exact ih
    | some id =>
      obtain ⟨date,name⟩ := metadataId_iff.mp found
      have lists : Lists keys key (entryOf keys id) := by
        rw [entryOf_spec date]
        exact ⟨date,name,rfl⟩
      rw [List.filterMap_cons_some found,List.filter_cons_of_pos (by simp [found])]
      exact .cons lists ih

theorem specified_collectBackups (pages : List (Option (List String))) :
    Specified (pageKeys pages) (collectBackups pages) := by
  refine ⟨sorted_collectBackups pages,?_⟩
  have perm : (collectBackups pages).Perm (((pageKeys pages).filterMap metadataId).map (entryOf (pageKeys pages))) := by
    rw [collectBackups_eq]
    exact List.perm_insertionSort _ _
  obtain ⟨listed,each,same⟩ := List.perm_comp_forall₂ perm (forall₂_entries (pageKeys pages) (pageKeys pages))
  refine ⟨listed,(pageKeys pages).filter (fun key => !(metadataId key).isSome),?_,each.flip,?_⟩
  · exact (same.append_right _).trans (List.filter_append_perm _ _)
  · intro key member id date name
    have missing := (List.mem_filter.mp member).2
    rw [metadataId_iff.mpr ⟨date,name⟩] at missing
    cases missing

/-- Two entries of one identifier are equal. -/
theorem statusOf_perm {keys' : List String} (perm : keys.Perm keys') (id : String) :
    statusOf keys id = statusOf keys' id := by
  simp only [statusOf,perm.mem_iff]

theorem collectBackups_perm {pages pages' : List (Option (List String))}
    (perm : (pageKeys pages).Perm (pageKeys pages')) : collectBackups pages = collectBackups pages' := by
  have entries (pages : List (Option (List String))) :
      ∀ backup ∈ collectBackups pages, backup.status = statusOf (pageKeys pages) backup.id := by
    intro backup member
    rw [collectBackups_eq,List.mem_insertionSort] at member
    obtain ⟨id,listed,rfl⟩ := List.mem_map.mp member
    obtain ⟨key,_,found⟩ := List.mem_filterMap.mp listed
    rw [entryOf_spec (metadataId_iff.mp found).1]
  have same : (collectBackups pages).Perm (collectBackups pages') := by
    have maps : entryOf (pageKeys pages) = entryOf (pageKeys pages') := by
      funext id
      have checksum := (perm.filterMap checksumId).contains_eq (a := id)
      have log := (perm.filterMap logId).contains_eq (a := id)
      rw [entryOf,checksum,log,entryOf]
    rw [collectBackups_eq,collectBackups_eq,maps]
    have ids := (perm.filterMap metadataId).map (entryOf (pageKeys pages'))
    exact (List.perm_insertionSort _ _).trans (ids.trans (List.perm_insertionSort _ _).symm)
  refine same.eq_of_pairwise (fun a b inA inB ab ba => ?_) (sorted_collectBackups _) (sorted_collectBackups _)
  have id : a.id = b.id := String.le_antisymm ab ba
  have status : a.status = b.status := by
    rw [entries _ a inA,entries _ b inB,id]
    exact statusOf_perm perm _
  obtain ⟨_,_⟩ := a
  obtain ⟨_,_⟩ := b
  cases id
  cases status
  rfl

end

/-- The list meets its specification, and depends on the keys alone. -/
theorem collectBackups_correct (pages : List (Option (List String))) :
    Specified (pageKeys pages) (collectBackups pages) ∧
      ∀ pages', (pageKeys pages').Perm (pageKeys pages) → collectBackups pages' = collectBackups pages :=
  ⟨specified_collectBackups pages,fun _ perm => collectBackups_perm perm⟩

end MysqlOperators.BackupSpecification
