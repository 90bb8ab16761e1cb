import MysqlOperators.Helpers
import MysqlOperators.Json
import MysqlOperators.Mappings

/-!
What the library of the database relation keeps for its provider (`ProviderData`):
settings in the databag of the application, or in Juju secrets where the client has
asked for them as secrets. The client's half of the relation is its databag, which the
charm only reads.
-/
namespace MysqlOperators.RelationStore
open MysqlOperators.Json (textOf stringOf loads dumps)
open MysqlOperators.Helpers (nonEmpty nonEmpty_some)
set_option linter.unusedSimpArgs false

abbrev Bag := Mapping String String

/-- Juju drops an entry that is set to the empty text. -/
def write (bag : Bag) (key value : String) : Bag := if value = "" then bag.erase key else bag.set key value

def writeAll (bag : Bag) (entries : List (String × String)) : Bag :=
  entries.foldl (fun bag entry => write bag entry.1 entry.2) bag

/-- The exceptions of the library that a hook of the provider can end with. -/
inductive Failure where
  | jsonDecodeError
  /-- A field of a list of fields that cannot be a member of a set. -/
  | typeError
  | secretNotFound
  | prematureDataAccess
  | valueError
  /-- An exception of the charm, in the handler of an event of the library. -/
  | handler
deriving DecidableEq, Repr

/-! ### Secret fields -/

inductive Group where
  | user | tls | mtls | entity | extra
deriving DecidableEq, Repr

namespace Group

def all : List Group := [.user,.tls,.mtls,.entity,.extra]

def name : Group → String
  | .user => "user"
  | .tls => "tls"
  | .mtls => "mtls"
  | .entity => "entity"
  | .extra => "extra"

/-- `_generate_secret_field_name`. -/
def field (g : Group) : String := "secret-" ++ g.name

end Group

def secretLabelMap : List (String × Group) :=
  [("username",.user),("password",.user),("uris",.user),("read-only-uris",.user),("tls",.tls),("tls-ca",.tls),
   ("mtls-cert",.mtls),("entity-name",.entity),("entity-password",.entity)]

/-- A field that the map does not know goes with the others of its kind. -/
def groupOf (field : String) : Group := (secretLabelMap.lookup field).getD .extra

def getEncodedList (bag : Bag) (field : String) : Except Failure (Option (List Json.Value)) :=
  match loads ((bag.get field).getD "[]").toList with
  | none => .error .jsonDecodeError
  | some (.array items) => .ok (some items)
  | some _ => .ok none

def getEncodedDict (bag : Bag) (field : String) : Except Failure (Option (List (Json.Text × Json.Value))) :=
  match loads ((bag.get field).getD "\x7b\x7d").toList with
  | none => .error .jsonDecodeError
  | some (.object members) => .ok (some members)
  | some _ => .ok none

/-- The texts among the items of a list, which alone can name a field. -/
def namesOf (items : List Json.Value) : List Json.Text :=
  items.filterMap (fun item =>
    match item with
    | .string text => some text
    | _ => none)

/-- `set` on the items of a list: a list or a dictionary is no member of a set. -/
def asSet (items : List Json.Value) : Except Failure (List Json.Text) :=
  if items.any (fun item =>
    match item with
    | .array _ | .object _ => true
    | _ => false) then .error .typeError
  else .ok (namesOf items)

structure Secret where
  id : String
  content : Bag

structure Relation where
  remote : Bag
  own : Bag
  /-- The secrets of the application, each under the label of its group. -/
  secrets : Group → Option Secret

/-- A relation that has just been created. -/
def Relation.fresh (remote : Bag) : Relation := ⟨remote,Mapping.empty,fun _ => none⟩

/-- `local_secret_fields`, after `_load_secrets_from_databag`. -/
def requested (enabled : Bool) (remote : Bag) : Except Failure (List Json.Value) := do
  let items ← getEncodedList remote "requested-secrets"
  return if enabled then items.getD [] else []

/-- `remote_secret_fields`. -/
def provided (enabled : Bool) (remote : Bag) : Except Failure (List Json.Value) := do
  let items ← getEncodedList remote "provided-secrets"
  return if enabled then items.getD [] else []

/-- The relation started on the databag, and stays there. -/
def fallbackToDatabag (r : Relation) (fields : List Json.Text) : Bool :=
  r.own.keys.any (fun key => decide (textOf key.toList ∈ fields))

def getSecretUri (r : Relation) (local_ : List Json.Value) (g : Group) : Except Failure (Option String) := do
  let mine ← asSet local_
  return if secretLabelMap.any (fun entry => decide (textOf entry.1.toList ∈ mine ∧ entry.2 = g)) then r.own.get g.field
    else r.remote.get g.field

/-- By its label, else by what a databag names, which is not there then. -/
def getRelationSecret (r : Relation) (local_ : List Json.Value) (g : Group) : Except Failure (Option Secret) :=
  match r.secrets g with
  | some s => .ok (some s)
  | none => do
    match ← getSecretUri r local_ g with
    | none => return none
    | some _ => .error .secretNotFound

/-! ### Reading -/

/-- `_fetch_relation_data_with_secrets`, of one field. -/
def fetchField (r : Relation) (component : Bag) (local_ items : List Json.Value) (field : String) :
    Except Failure (Option String) := do
  let fields ← asSet items
  if textOf field.toList ∈ fields ∧ fallbackToDatabag r fields = false then do
    match ← getRelationSecret r local_ (groupOf field) with
    | some s => return s.content.get field <|> component.get field
    | none => return component.get field
  else return component.get field

def fetchRelationField (enabled : Bool) (r : Relation) (field : String) : Except Failure (Option String) := do
  let local_ ← requested enabled r.remote
  let remote ← provided enabled r.remote
  fetchField r r.remote local_ remote field

def fetchMyRelationField (enabled : Bool) (r : Relation) (field : String) : Except Failure (Option String) := do
  let local_ ← requested enabled r.remote
  let _ ← provided enabled r.remote
  fetchField r r.own local_ local_ field

/-! ### Writing -/

/-- The identifiers that Juju gives to new secrets. -/
structure Identifiers where
  of : Group → String
  nonempty : ∀ g, of g ≠ ""

/-- `_add_or_update_relation_secrets`. -/
def addOrUpdate (ids : Identifiers) (local_ : List Json.Value) (g : Group) (content : List (String × String))
    (r : Relation) : Except Failure Relation := do
  match ← getRelationSecret r local_ g with
  | some s =>
    return { r with secrets := Function.update r.secrets g (some { s with content := s.content.update content }) }
  | none =>
    return { r with
      own := write r.own g.field (ids.of g)
      secrets := Function.update r.secrets g (some ⟨ids.of g,Mapping.empty.update content⟩) }

/-- `_content_for_secret_group`. -/
def contentFor (fields : List Json.Text) (data : List (String × String)) (g : Group) : List (String × String) :=
  data.filter (fun entry => decide (textOf entry.1.toList ∈ fields ∧ groupOf entry.1 = g))

/-- The groups of the fields that are to be secret, one after the other. -/
def storeSecrets (ids : Identifiers) (local_ : List Json.Value) (fields : List Json.Text)
    (data : List (String × String)) (groups : List Group) (r : Relation) : Except Failure Relation :=
  groups.foldlM (fun r g =>
    if contentFor fields data g = [] then .ok r else addOrUpdate ids local_ g (contentFor fields data g) r) r

/-- `Data._update_relation_data`. -/
def updateData (enabled : Bool) (ids : Identifiers) (data : List (String × String)) (r : Relation) :
    Except Failure Relation := do
  let local_ ← requested enabled r.remote
  let _ ← provided enabled r.remote
  let fields ← asSet local_
  if fallbackToDatabag r fields then return { r with own := writeAll r.own data }
  else do
    let r ← storeSecrets ids local_ fields data Group.all r
    return { r with own := writeAll r.own (data.filter (fun entry => decide (textOf entry.1.toList ∉ fields))) }

def unguarded : List String := ["endpoints","read-only-endpoints","replset","encryption-secret"]

/-- `ProviderData._update_relation_data`. -/
def updateRelationData (enabled : Bool) (ids : Identifiers) (data : List (String × String)) (r : Relation) :
    Except Failure Relation := do
  let resource ← fetchRelationField enabled r "database"
  if resource = none ∧ data.any (fun entry => !unguarded.contains entry.1) then .error .prematureDataAccess
  else updateData enabled ids data r

/-- The settings that the charm publishes, each with the method it calls for it. -/
inductive Setting where
  | database (name : String)
  | credentials (username password : String)
  | version (text : String)
  | endpoints (connectionStrings : String)
  | readOnlyEndpoints (connectionStrings : String)
deriving DecidableEq, Repr

def Setting.data : Setting → List (String × String)
  | .database name => [("database",name)]
  | .credentials username password => [("username",username),("password",password)]
  | .version text => [("version",text)]
  | .endpoints connectionStrings => [("endpoints",connectionStrings)]
  | .readOnlyEndpoints connectionStrings => [("read-only-endpoints",connectionStrings)]

def publish (enabled : Bool) (ids : Identifiers) (settings : List Setting) (r : Relation) : Except Failure Relation :=
  settings.foldlM (fun r s => updateRelationData enabled ids s.data r) r

/-! ### What one write does -/

theorem nonEmpty_idem (value : Option String) : nonEmpty (nonEmpty value) = nonEmpty value := by
  cases value with
  | none => rfl
  | some text =>
    by_cases empty : text = ""
    · subst empty
      rfl
    · rw [nonEmpty_some empty,nonEmpty_some empty]

theorem get_write (bag : Bag) (key value k : String) :
    (write bag key value).get k = if k = key then nonEmpty (some value) else bag.get k := by
  unfold write
  by_cases empty : value = ""
  · rw [if_pos empty,Mapping.get_erase,empty]
    rfl
  · rw [if_neg empty,Mapping.get_set,nonEmpty_some empty]

/-- Later entries win, and an empty text removes an entry. -/
theorem get_writeAll (bag : Bag) (entries : List (String × String)) (k : String) :
    (writeAll bag entries).get k =
      match entries.reverse.lookup k with
      | some value => nonEmpty (some value)
      | none => bag.get k := by
  induction entries generalizing bag with
  | nil => rfl
  | cons entry entries ih =>
    obtain ⟨key,value⟩ := entry
    rw [writeAll,List.foldl_cons,← writeAll,ih,List.reverse_cons,List.lookup_append,get_write]
    cases entries.reverse.lookup k with
    | some later => rfl
    | none =>
      by_cases asked : k = key
      · simp [asked]
      · have other : (k == key) = false := by simpa using asked
        simp [List.lookup_cons,other,asked]

theorem bind_ok {α β : Type} {x : Except Failure α} {f : α → Except Failure β} {b : β} (done : x >>= f = .ok b) :
    ∃ a, x = .ok a ∧ f a = .ok b := by
  cases x with
  | error e => cases done
  | ok a => exact ⟨a,rfl,done⟩

/-- The names that the library gives to entries of its own. -/
def reserved : List String := "data" :: Group.all.map Group.field

theorem reserved_data : "data" ∈ reserved := List.mem_cons_self

theorem reserved_field (g : Group) : g.field ∈ reserved := by cases g <;> decide

/-- What the secret of a group holds under a key. -/
def held (r : Relation) (g : Group) (key : String) : Option String := (r.secrets g).bind (fun s => s.content.get key)

/-- The databag names the secret of every group that has one. -/
def Named (r : Relation) : Prop := ∀ g s, r.secrets g = some s → r.own.get g.field = some s.id

/-- The content of some secrets has been updated, and the databag names new ones. -/
structure Updated (content : Group → List (String × String)) (r r' : Relation) : Prop where
  remote : r'.remote = r.remote
  own : ∀ key, key ∉ reserved → r'.own.get key = r.own.get key
  data : r'.own.get "data" = r.own.get "data"
  named : Named r → Named r'
  held : ∀ g key, held r' g key = ((content g).reverse.lookup key <|> held r g key)

theorem updated_addOrUpdate {ids : Identifiers} {local_ : List Json.Value} {g : Group}
    {content : List (String × String)} {r r' : Relation} (done : addOrUpdate ids local_ g content r = .ok r') :
    Updated (fun h => if h = g then content else []) r r' := by
  obtain ⟨found,known,done⟩ := bind_ok done
  cases present : r.secrets g with
  | some s =>
    rw [getRelationSecret,present] at known
    cases known
    cases done
    refine ⟨rfl,fun _ _ => rfl,rfl,fun named h t stored => ?_,fun h key => ?_⟩
    · simp only [Function.update_apply] at stored
      by_cases same : h = g
      · rw [if_pos same] at stored
        cases stored
        exact same ▸ named g s present
      · rw [if_neg same] at stored
        exact named h t stored
    · by_cases same : h = g
      · subst same
        simp [held,present,Mapping.get_update]
      · simp [held,same]
  | none =>
    have absent : found = none := by
      rw [getRelationSecret,present] at known
      obtain ⟨uri,_,known⟩ := bind_ok known
      cases uri with
      | none => cases known; rfl
      | some uri => cases known
    subst absent
    cases done
    have field (key : String) (other : key ≠ g.field) : (write r.own g.field (ids.of g)).get key = r.own.get key := by
      rw [get_write,if_neg other]
    refine ⟨rfl,fun key free => field key ?_,field _ (by cases g <;> decide),fun named h t stored => ?_,fun h key => ?_⟩
    · rintro rfl
      exact free (reserved_field g)
    · simp only [Function.update_apply] at stored
      by_cases same : h = g
      · subst same
        rw [if_pos rfl] at stored
        cases stored
        rw [get_write,if_pos rfl,nonEmpty_some (ids.nonempty h)]
      · rw [if_neg same] at stored
        have other : h.field ≠ g.field := by
          intro fields
          exact same (by cases h <;> cases g <;> first | rfl | exact absurd fields (by decide))
        rw [field _ other]
        exact named h t stored
    · by_cases same : h = g
      · subst same
        simp [held,present,Mapping.get_update]
      · simp [held,same]

theorem updated_storeSecrets {ids : Identifiers} {local_ : List Json.Value} {fields : List Json.Text}
    {data : List (String × String)} {groups : List Group} {r r' : Relation}
    (done : storeSecrets ids local_ fields data groups r = .ok r') :
    Updated (fun g => if g ∈ groups then contentFor fields data g else []) r r' := by
  induction groups generalizing r with
  | nil =>
    cases done
    exact ⟨rfl,fun _ _ => rfl,rfl,fun named => named,fun g key => by simp⟩
  | cons g groups ih =>
    rw [storeSecrets,List.foldlM_cons] at done
    obtain ⟨s,first,later⟩ := bind_ok done
    have rest := ih later
    have step : Updated (fun h => if h = g then contentFor fields data g else []) r s := by
      by_cases nothing : contentFor fields data g = []
      · rw [if_pos nothing] at first
        cases first
        exact ⟨rfl,fun _ _ => rfl,rfl,fun named => named,fun h key => by simp [nothing]⟩
      · rw [if_neg nothing] at first
        exact updated_addOrUpdate first
    refine ⟨rest.remote.trans step.remote,fun key free => (rest.own key free).trans (step.own key free),
      rest.data.trans step.data,fun named => rest.named (step.named named),fun h key => ?_⟩
    rw [rest.held,step.held]
    by_cases same : h = g
    · subst same
      by_cases later : h ∈ groups
      · simp only [later,if_true,List.mem_cons,or_true]
        cases (contentFor fields data h).reverse.lookup key <;> rfl
      · simp [later]
    · simp [same]

/-! ### What a run of writes keeps -/

/-- What the last write of each field has written. -/
abbrev History := String → Option String

def record (last : History) (data : List (String × String)) : History :=
  fun key => data.reverse.lookup key <|> last key

/-- The client asks for the same fields as secrets all along, and none of them is the
    library's own. -/
structure Asks (enabled : Bool) (remote : Bag) (fields : List Json.Text) : Prop where
  asked : (do asSet (← requested enabled remote)) = .ok fields
  free : ∀ key ∈ reserved, textOf key.toList ∉ fields

/-- Where every field is: in the secret of its group if the client has asked for it so,
    and in the databag otherwise. -/
structure Keeps (fields : List Json.Text) (r : Relation) (last : History) : Prop where
  hidden : ∀ key, textOf key.toList ∈ fields → r.own.get key = none
  secret : ∀ key, textOf key.toList ∈ fields → held r (groupOf key) key = last key
  shown : ∀ key, textOf key.toList ∉ fields → key ∉ reserved → r.own.get key = nonEmpty (last key)
  named : Named r

theorem keeps_fresh (fields : List Json.Text) (remote : Bag) : Keeps fields (Relation.fresh remote) (fun _ => none) :=
  ⟨fun _ _ => rfl,fun _ _ => rfl,fun _ _ _ => rfl,fun _ _ stored => (by cases stored)⟩

theorem fallback_false {fields : List Json.Text} {r : Relation} {last : History} (keeps : Keeps fields r last) :
    fallbackToDatabag r fields = false := by
  rw [fallbackToDatabag,List.any_eq_false]
  intro key member asked
  have present := Mapping.mem_keys.mp member
  rw [keeps.hidden key (of_decide_eq_true asked)] at present
  cases present

theorem lookup_contentFor (fields : List Json.Text) (data : List (String × String)) (key : String) :
    (contentFor fields data (groupOf key)).reverse.lookup key =
      if textOf key.toList ∈ fields then data.reverse.lookup key else none := by
  rw [contentFor,← List.filter_reverse]
  rw [Mapping.lookup_filter (fun k : String => decide (textOf k.toList ∈ fields ∧ groupOf k = groupOf key))]
  simp

theorem lookup_reserved {data : List (String × String)} (own : ∀ entry ∈ data, entry.1 ∉ reserved)
    {key : String} (taken : key ∈ reserved) : data.reverse.lookup key = none := by
  apply List.lookup_eq_none_iff.mpr
  intro entry member
  by_contra same
  have same : key = entry.1 := by simpa using same
  exact own entry (List.mem_reverse.mp member) (same ▸ taken)

/-- The part of an update that goes into the databag. -/
theorem lookup_open (fields : List Json.Text) (data : List (String × String)) (key : String) :
    (data.filter (fun entry => decide (textOf entry.1.toList ∉ fields))).reverse.lookup key =
      if textOf key.toList ∈ fields then none else data.reverse.lookup key := by
  rw [← List.filter_reverse,Mapping.lookup_filter (fun k : String => decide (textOf k.toList ∉ fields))]
  by_cases asked : textOf key.toList ∈ fields
  · simp [asked]
  · simp [asked]

/-- What the library keeps for itself is left, and so is the client's half. -/
theorem updateData_frame {enabled : Bool} {ids : Identifiers} {data : List (String × String)} {r r' : Relation}
    (own : ∀ entry ∈ data, entry.1 ∉ reserved) (done : updateData enabled ids data r = .ok r') :
    r'.remote = r.remote ∧ r'.own.get "data" = r.own.get "data" := by
  obtain ⟨local_,_,done⟩ := bind_ok done
  obtain ⟨_,_,done⟩ := bind_ok done
  obtain ⟨fields,_,done⟩ := bind_ok done
  have absent := lookup_reserved own reserved_data
  by_cases fallback : fallbackToDatabag r fields = true
  · rw [if_pos fallback] at done
    cases done
    exact ⟨rfl,by rw [get_writeAll,absent]⟩
  · rw [if_neg fallback] at done
    obtain ⟨s,stored,done⟩ := bind_ok done
    cases done
    have updated := updated_storeSecrets stored
    refine ⟨updated.remote,?_⟩
    rw [get_writeAll,lookup_open,absent,ite_self]
    exact updated.data

theorem updateData_keeps {enabled : Bool} {ids : Identifiers} {data : List (String × String)} {r r' : Relation}
    {fields : List Json.Text} {last : History} (asks : Asks enabled r.remote fields) (keeps : Keeps fields r last)
    (own : ∀ entry ∈ data, entry.1 ∉ reserved) (done : updateData enabled ids data r = .ok r') :
    Keeps fields r' (record last data) := by
  obtain ⟨items,asked,set_⟩ := bind_ok asks.asked
  obtain ⟨local_,requested_,done⟩ := bind_ok done
  obtain ⟨_,_,done⟩ := bind_ok done
  obtain ⟨names,named,done⟩ := bind_ok done
  have sameItems : local_ = items := by rw [asked] at requested_; cases requested_; rfl
  subst sameItems
  have sameNames : names = fields := by rw [set_] at named; cases named; rfl
  subst sameNames
  rw [if_neg (by rw [fallback_false keeps]; exact Bool.false_ne_true)] at done
  obtain ⟨s,stored,done⟩ := bind_ok done
  cases done
  have updated := updated_storeSecrets stored
  have all (g : Group) : g ∈ Group.all := by cases g <;> decide
  refine ⟨fun key asked => ?_,fun key asked => ?_,fun key open_ free => ?_,fun g secret present => ?_⟩
  · have free : key ∉ reserved := fun taken => asks.free key taken asked
    show (writeAll s.own _).get key = none
    rw [get_writeAll,lookup_open,if_pos asked]
    exact (updated.own key free).trans (keeps.hidden key asked)
  · show held s (groupOf key) key = _
    rw [updated.held,if_pos (all _),lookup_contentFor,if_pos asked,keeps.secret key asked]
    rfl
  · show (writeAll s.own _).get key = _
    rw [get_writeAll,lookup_open,if_neg open_,record]
    cases data.reverse.lookup key with
    | some value => rfl
    | none => exact (updated.own key free).trans (keeps.shown key open_ free)
  · show (writeAll s.own _).get g.field = _
    rw [get_writeAll,lookup_open,if_neg (asks.free _ (reserved_field g)),lookup_reserved own (reserved_field g)]
    exact updated.named keeps.named g secret present

theorem setting_free (s : Setting) : ∀ entry ∈ s.data, entry.1 ∉ reserved := by
  cases s <;> simp [Setting.data,reserved,Group.all,Group.field,Group.name]

/-- An update that is let through is an update of the data. -/
theorem updateData_of_update {enabled : Bool} {ids : Identifiers} {data : List (String × String)} {r r' : Relation}
    (done : updateRelationData enabled ids data r = .ok r') : updateData enabled ids data r = .ok r' := by
  obtain ⟨resource,_,done⟩ := bind_ok done
  by_cases premature : resource = none ∧ data.any (fun entry => !unguarded.contains entry.1) = true
  · rw [if_pos premature] at done
    cases done
  · rw [if_neg premature] at done
    exact done

theorem publish_frame {enabled : Bool} {ids : Identifiers} {settings : List Setting} {r r' : Relation}
    (done : publish enabled ids settings r = .ok r') :
    r'.remote = r.remote ∧ r'.own.get "data" = r.own.get "data" := by
  induction settings generalizing r with
  | nil =>
    cases done
    exact ⟨rfl,rfl⟩
  | cons s settings ih =>
    rw [publish,List.foldlM_cons] at done
    obtain ⟨t,first,later⟩ := bind_ok done
    obtain ⟨remote,data⟩ := updateData_frame (setting_free s) (updateData_of_update first)
    obtain ⟨remote',data'⟩ := ih later
    exact ⟨remote'.trans remote,data'.trans data⟩

theorem publish_keeps {enabled : Bool} {ids : Identifiers} {settings : List Setting} {r r' : Relation}
    {fields : List Json.Text} {last : History} (asks : Asks enabled r.remote fields) (keeps : Keeps fields r last)
    (done : publish enabled ids settings r = .ok r') :
    Keeps fields r' (settings.foldl (fun last s => record last s.data) last) := by
  induction settings generalizing r last with
  | nil =>
    cases done
    exact keeps
  | cons s settings ih =>
    rw [publish,List.foldlM_cons] at done
    obtain ⟨t,first,later⟩ := bind_ok done
    have written := updateData_of_update first
    have remote := (updateData_frame (setting_free s) written).1
    exact ih (remote ▸ asks) (updateData_keeps asks keeps (setting_free s) written) later

/-- A write is read back, from the secret or from the databag. -/
theorem fetch_spec {enabled : Bool} {r : Relation} {fields : List Json.Text} {last : History}
    (asks : Asks enabled r.remote fields) (keeps : Keeps fields r last) {field : String}
    (free : field ∉ reserved) {found : Option String} (done : fetchMyRelationField enabled r field = .ok found) :
    nonEmpty found = nonEmpty (last field) := by
  obtain ⟨items,asked,set_⟩ := bind_ok asks.asked
  obtain ⟨local_,requested_,done⟩ := bind_ok done
  obtain ⟨_,_,done⟩ := bind_ok done
  have sameItems : local_ = items := by rw [asked] at requested_; cases requested_; rfl
  subst sameItems
  obtain ⟨names,named,done⟩ := bind_ok done
  have sameNames : names = fields := by rw [set_] at named; cases named; rfl
  subst sameNames
  by_cases asked : textOf field.toList ∈ names
  · rw [if_pos ⟨asked,fallback_false keeps⟩] at done
    obtain ⟨secret,got,done⟩ := bind_ok done
    have content := keeps.secret field asked
    have databag := keeps.hidden field asked
    cases present : r.secrets (groupOf field) with
    | some s =>
      rw [getRelationSecret,present] at got
      cases got
      cases done
      rw [held,present,Option.bind_some] at content
      rw [content,databag]
      cases last field <;> rfl
    | none =>
      rw [held,present] at content
      have nothing : found = none := by
        cases secret with
        | none => cases done; exact databag
        | some s =>
          rw [getRelationSecret,present] at got
          obtain ⟨uri,_,got⟩ := bind_ok got
          cases uri with
          | none => cases got
          | some uri => cases got
      rw [nothing,← content]
      rfl
  · rw [if_neg (fun both => asked both.1)] at done
    cases done
    rw [keeps.shown field asked free,nonEmpty_idem]

end MysqlOperators.RelationStore
