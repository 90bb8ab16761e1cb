import Mathlib.Data.List.Nodup

/-!
Python dictionaries: entries in the order of insertion, each key once. What a mapping
means is what `get` finds under each key.
-/
namespace MysqlOperators

structure Mapping (κ ν : Type) where
  entries : List (κ × ν)
  distinct : (entries.map Prod.fst).Nodup

namespace Mapping
variable {κ ν : Type} [DecidableEq κ]

def empty : Mapping κ ν := ⟨[],List.nodup_nil⟩

instance : Inhabited (Mapping κ ν) := ⟨empty⟩

def get (m : Mapping κ ν) (key : κ) : Option ν := m.entries.lookup key

def keys (m : Mapping κ ν) : List κ := m.entries.map Prod.fst

/-- The entries with a value in the place of a key's. -/
def replace (key : κ) (value : ν) (entries : List (κ × ν)) : List (κ × ν) :=
  entries.map (fun entry => if entry.1 = key then (key,value) else entry)

theorem keys_replace (key : κ) (value : ν) (entries : List (κ × ν)) :
    (replace key value entries).map Prod.fst = entries.map Prod.fst := by
  rw [replace,List.map_map]
  apply List.map_congr_left
  intro entry _
  by_cases same : entry.1 = key
  · simp [same]
  · simp [same]

/-- `m[key] = value`. -/
def set (m : Mapping κ ν) (key : κ) (value : ν) : Mapping κ ν :=
  if known : key ∈ m.keys then ⟨replace key value m.entries,by rw [keys_replace]; exact m.distinct⟩
  else ⟨m.entries ++ [(key,value)],by
    rw [List.map_append,List.map_singleton,← List.concat_eq_append]
    exact List.Nodup.concat known m.distinct⟩

/-- The entries whose key satisfies a test. -/
def filter (m : Mapping κ ν) (keeps : κ → Bool) : Mapping κ ν :=
  ⟨m.entries.filter (fun entry => keeps entry.1),
    List.Nodup.sublist (List.Sublist.map Prod.fst List.filter_sublist) m.distinct⟩

/-- `m.pop(key,None)`. -/
def erase (m : Mapping κ ν) (key : κ) : Mapping κ ν := m.filter (fun k => decide (k ≠ key))

/-- `m.update(entries)`. -/
def update (m : Mapping κ ν) (entries : List (κ × ν)) : Mapping κ ν :=
  entries.foldl (fun m entry => m.set entry.1 entry.2) m

@[simp] theorem get_empty (key : κ) : (empty : Mapping κ ν).get key = none := rfl

theorem mem_keys {m : Mapping κ ν} {key : κ} : key ∈ m.keys ↔ (m.get key).isSome = true := by
  rw [get,List.lookup_isSome_iff,keys]
  constructor
  · intro member
    obtain ⟨entry,member,same⟩ := List.mem_map.mp member
    exact ⟨entry,member,by simpa using same.symm⟩
  · rintro ⟨entry,member,same⟩
    exact List.mem_map.mpr ⟨entry,member,(by simpa using same : key = entry.1).symm⟩

theorem not_mem_keys {m : Mapping κ ν} {key : κ} : key ∉ m.keys ↔ m.get key = none := by
  rw [mem_keys,Option.not_isSome_iff_eq_none]

theorem lookup_replace (key : κ) (value : ν) (entries : List (κ × ν)) (k : κ) :
    (replace key value entries).lookup k =
      if k = key ∧ key ∈ entries.map Prod.fst then some value else entries.lookup k := by
  induction entries with
  | nil => simp [replace]
  | cons entry entries ih =>
    obtain ⟨k',v'⟩ := entry
    rw [replace,List.map_cons,← replace]
    by_cases same : k' = key
    · subst same
      by_cases asked : k = k'
      · simp [asked]
      · have other : (k == k') = false := by simpa using asked
        simp [List.lookup_cons,other,ih,asked]
    · rw [if_neg same]
      by_cases asked : k = k'
      · subst asked
        simp [same]
      · have other : (k == k') = false := by simpa using asked
        have member : key ∈ ((k',v') :: entries).map Prod.fst ↔ key ∈ entries.map Prod.fst := by
          rw [List.map_cons,List.mem_cons]
          exact or_iff_right (Ne.symm same)
        rw [List.lookup_cons,List.lookup_cons,other,ih]
        simp only [member]

@[simp] theorem get_set (m : Mapping κ ν) (key : κ) (value : ν) (k : κ) :
    (m.set key value).get k = if k = key then some value else m.get k := by
  unfold set
  by_cases known : key ∈ m.keys
  · rw [dif_pos known]
    show (replace key value m.entries).lookup k = _
    rw [lookup_replace]
    simp [show key ∈ m.entries.map Prod.fst from known,get]
  · rw [dif_neg known]
    show (m.entries ++ [(key,value)]).lookup k = _
    rw [List.lookup_append]
    by_cases asked : k = key
    · subst asked
      rw [if_pos rfl,show m.entries.lookup k = none from not_mem_keys.mp known]
      simp
    · have other : (k == key) = false := by simpa using asked
      simp [List.lookup_cons,other,asked,get]

theorem lookup_filter (keeps : κ → Bool) (entries : List (κ × ν)) (k : κ) :
    (entries.filter (fun entry => keeps entry.1)).lookup k = if keeps k = true then entries.lookup k else none := by
  induction entries with
  | nil => simp
  | cons entry entries ih =>
    obtain ⟨k',v'⟩ := entry
    by_cases kept : keeps k' = true
    · rw [List.filter_cons_of_pos (by exact kept),List.lookup_cons,List.lookup_cons,ih]
      by_cases asked : k = k'
      · subst asked
        simp [kept]
      · have other : (k == k') = false := by simpa using asked
        rw [other]
    · rw [List.filter_cons_of_neg (by exact kept),ih,List.lookup_cons]
      by_cases asked : k = k'
      · subst asked
        simp [kept]
      · have other : (k == k') = false := by simpa using asked
        rw [other]

@[simp] theorem get_filter (m : Mapping κ ν) (keeps : κ → Bool) (k : κ) :
    (m.filter keeps).get k = if keeps k = true then m.get k else none := lookup_filter keeps m.entries k

@[simp] theorem get_erase (m : Mapping κ ν) (key k : κ) : (m.erase key).get k = if k = key then none else m.get k := by
  rw [erase,get_filter]
  by_cases same : k = key
  · simp [same]
  · simp [same]

/-- An update leaves what it does not name, and takes the last value of what it names. -/
theorem get_update (m : Mapping κ ν) (entries : List (κ × ν)) (k : κ) :
    (m.update entries).get k = (entries.reverse.lookup k <|> m.get k) := by
  induction entries generalizing m with
  | nil => simp [update]
  | cons entry entries ih =>
    obtain ⟨key,value⟩ := entry
    rw [update,List.foldl_cons,← update,ih,List.reverse_cons,List.lookup_append]
    cases entries.reverse.lookup k with
    | some v => simp
    | none =>
      by_cases asked : k = key
      · simp [asked]
      · have other : (k == key) = false := by simpa using asked
        simp [List.lookup_cons,other,asked]

theorem get_of_mem {m : Mapping κ ν} {key : κ} {value : ν} (member : (key,value) ∈ m.entries) :
    m.get key = some value := by
  obtain ⟨entries,distinct⟩ := m
  rw [get]
  induction entries with
  | nil => cases member
  | cons entry entries ih =>
    rw [List.map_cons,List.nodup_cons] at distinct
    rcases List.mem_cons.mp member with rfl | later
    · exact List.lookup_cons_self
    · have other : (key == entry.1) = false := by
        have apart : key ≠ entry.1 := by
          rintro rfl
          exact distinct.1 (List.mem_map.mpr ⟨_,later,rfl⟩)
        simpa using apart
      rw [List.lookup_cons,other]
      exact ih distinct.2 later

/-- An update with the entries of another mapping. -/
theorem get_update_entries (m other : Mapping κ ν) (k : κ) :
    (m.update other.entries).get k = (other.get k <|> m.get k) := by
  have same : other.entries.reverse.lookup k = other.get k := by
    cases found : other.get k with
    | some value =>
      have distinct : (other.entries.reverse.map Prod.fst).Nodup := by
        rw [List.map_reverse,List.nodup_reverse]
        exact other.distinct
      obtain ⟨before,after,parts,-⟩ := List.lookup_eq_some_iff.mp found
      refine @get_of_mem κ ν _ ⟨other.entries.reverse,distinct⟩ k value (List.mem_reverse.mpr ?_)
      rw [parts]
      exact List.mem_append_right before List.mem_cons_self
    | none =>
      have missing : k ∉ other.entries.reverse.map Prod.fst := by
        rw [List.map_reverse,List.mem_reverse]
        exact not_mem_keys.mpr found
      rw [List.lookup_eq_none_iff]
      intro entry member
      have apart : k ≠ entry.1 := fun same => missing (List.mem_map.mpr ⟨entry,member,same.symm⟩)
      simpa using apart
  rw [get_update,same]

end Mapping

end MysqlOperators
