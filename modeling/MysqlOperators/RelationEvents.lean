import MysqlOperators.RelationStore

/-!
The events of the database relation (`DatabaseProviderEventHandlers`): the library
compares what the client's databag says with a snapshot of what it said before, which
it keeps as JSON in the databag of the charm's own application. A run is any sequence
of changes by the client and of hooks, of leaders and of other units; a hook that
raises leaves nothing behind.
-/
namespace MysqlOperators.RelationEvents
open MysqlOperators.Json (textOf stringOf loads dumps dict)
open MysqlOperators.RelationStore
set_option linter.unusedSimpArgs false

/-! ### The library -/

structure Diff where
  added : List String
  changed : List String
  deleted : List Json.Text

/-- A text compared with what has been read from JSON. -/
def isText (text : String) : Json.Value → Bool
  | .string read => decide (read = textOf text.toList)
  | _ => false

/-- What the client says, but for a key that the library uses on its own side. -/
def dataOf (remote : Bag) : Bag := remote.filter (fun key => decide (key ≠ "data"))

def diffOf (old : List (Json.Text × Json.Value)) (new : Bag) : Diff where
  added := new.keys.filter (fun key => (old.lookup (textOf key.toList)).isNone)
  deleted := (old.map Prod.fst).filter (fun text => new.keys.all (fun key => decide (textOf key.toList ≠ text)))
  changed := new.keys.filter (fun key =>
    match old.lookup (textOf key.toList), new.get key with
    | some value, some text => !isText text value
    | _, _ => false)

/-- `diff`, with the databag of the application as its bucket. -/
def diff (r : Relation) : Except Failure (Diff × Relation) := do
  let old ← getEncodedDict r.own "data"
  let new := dataOf r.remote
  return (diffOf (old.getD []) new,
    { r with own := write r.own "data" (String.ofList (dumps (dict new.entries))) })

def entityKeys : List String := ["entity-type","extra-user-roles","extra-group-roles"]

def validateEntityConsistency (d : Diff) : Except Failure Unit :=
  if entityKeys.any (fun key => d.changed.contains key) then .error .valueError else .ok ()

inductive Emission where
  | databaseRequested
  | databaseEntityRequested
  | databaseEntityPermissionsChanged
deriving DecidableEq, Repr

def emission (d : Diff) : Option Emission :=
  if "database" ∈ d.added ∧ "entity-type" ∉ d.added then some .databaseRequested
  else if "database" ∈ d.added ∧ "entity-type" ∈ d.added then some .databaseEntityRequested
  else if "database" ∉ d.added ∧ "entity-type" ∉ d.added ∧
      ("entity-permissions" ∈ d.added ∨ "entity-permissions" ∈ d.changed) then some .databaseEntityPermissionsChanged
  else none

/-- What the charm does with a request: the settings that it publishes, and whether it
    raises after them. -/
structure Handler where
  settings : List Setting
  raises : Bool

def Handler.handle (enabled : Bool) (ids : Identifiers) (handler : Handler) (r : Relation) :
    Except Failure Relation := do
  let r ← publish enabled ids handler.settings r
  if handler.raises then .error .handler else return r

/-- `_on_relation_changed_event`. The charm observes the first of the three events. -/
def onRelationChanged (enabled : Bool) (ids : Identifiers) (leader : Bool) (handler : Handler) (r : Relation) :
    Except Failure (Option Emission × Relation) := do
  let _ ← requested enabled r.remote
  let _ ← provided enabled r.remote
  if leader then do
    let (d,r) ← diff r
    validateEntityConsistency d
    if emission d = some .databaseRequested then do
      let r ← handler.handle enabled ids r
      return (emission d,r)
    else return (emission d,r)
  else return (none,r)

/-! ### Runs -/

/-- A relation, with what its committed hooks have done: the settings they have
    written, what leaders have seen the client say, and the events they have emitted. -/
structure World where
  relation : Relation
  last : History
  seen : List Bag
  emitted : List Emission

inductive Event where
  /-- The client's application sets its databag. -/
  | client (remote : Bag)
  | relationChanged (leader : Bool) (ids : Identifiers) (handler : Handler)
  /-- Another hook, which publishes settings. -/
  | publish (leader : Bool) (ids : Identifiers) (handler : Handler)

def fresh (remote : Bag) : World := ⟨Relation.fresh remote,fun _ => none,[],[]⟩

def recordAll (last : History) (settings : List Setting) : History :=
  settings.foldl (fun last s => record last s.data) last

/-- Units that do not lead write nothing: `update_relation_data` is for the leader. -/
def step (enabled : Bool) (w : World) : Event → World
  | .client remote => { w with relation := { w.relation with remote := remote } }
  | .relationChanged leader ids handler =>
    match onRelationChanged enabled ids leader handler w.relation with
    | .error _ => w
    | .ok (emitted,r) =>
      { relation := r
        last := if emitted = some .databaseRequested then recordAll w.last handler.settings else w.last
        seen := if leader then w.seen ++ [w.relation.remote] else w.seen
        emitted := w.emitted ++ emitted.toList }
  | .publish leader ids handler =>
    if leader then
      match handler.handle enabled ids w.relation with
      | .error _ => w
      | .ok r => { w with relation := r, last := recordAll w.last handler.settings }
    else w

def run (enabled : Bool) (w : World) (events : List Event) : World := events.foldl (step enabled) w

/-! ### What is announced -/

/-- The event for what the client says now, after what it said before. -/
def announcement (old new : Bag) : Option Emission :=
  if "database" ∈ new.keys ∧ "database" ∉ old.keys then
    if "entity-type" ∈ new.keys ∧ "entity-type" ∉ old.keys then some .databaseEntityRequested
    else some .databaseRequested
  else if "entity-type" ∈ new.keys ∧ "entity-type" ∉ old.keys then none
  else if "entity-permissions" ∈ new.keys ∧ new.get "entity-permissions" ≠ old.get "entity-permissions" then
    some .databaseEntityPermissionsChanged
  else none

def announcements : Bag → List Bag → List Emission
  | _, [] => []
  | old, new :: more => (announcement old new).toList ++ announcements new more

/-- What the client said when a leader looked last. -/
def lastSeen (seen : List Bag) : Bag := seen.getLast?.getD Mapping.empty

theorem announcements_append (old : Bag) (seen : List Bag) (new : Bag) :
    announcements old (seen ++ [new]) =
      announcements old seen ++ (announcement (seen.getLast?.getD old) new).toList := by
  induction seen generalizing old with
  | nil => simp [announcements]
  | cons first seen ih =>
    rw [List.cons_append,announcements,announcements,ih first,List.append_assoc]
    cases seen with
    | nil => rfl
    | cons second seen => simp [List.getLast?_cons]

/-! ### Edges of a sequence -/

section Edges
variable {α : Type} (p : α → Bool)

/-- How often a test begins to hold, along what is seen one after the other. -/
def rises : Bool → List α → Nat
  | _, [] => 0
  | before, a :: more => (if p a = true ∧ before = false then 1 else 0) + rises (p a) more

/-- How often it ceases to hold. -/
def falls : Bool → List α → Nat
  | _, [] => 0
  | before, a :: more => (if p a = false ∧ before = true then 1 else 0) + falls (p a) more

theorem rises_eq_falls (before : Bool) (l : List α) :
    rises p before l + before.toNat = falls p before l + ((l.getLast?.map p).getD before).toNat := by
  induction l generalizing before with
  | nil => rfl
  | cons a l ih =>
    have later := ih (p a)
    have last : ((a :: l).getLast?.map p).getD before = (l.getLast?.map p).getD (p a) := by
      cases l with
      | nil => rfl
      | cons b l => simp [List.getLast?_cons]
    rw [rises,falls,last]
    cases holds : p a <;> cases before <;> rw [holds] at later <;>
      simp only [Bool.toNat_true,Bool.toNat_false] at later ⊢ <;> simp <;> omega

end Edges

def isRequest (e : Emission) : Bool := e == .databaseRequested || e == .databaseEntityRequested

def asks (bag : Bag) : Bool := decide ("database" ∈ bag.keys)

theorem request_iff (old new : Bag) :
    (announcement old new).toList.countP isRequest = if asks new = true ∧ asks old = false then 1 else 0 := by
  have rising : (asks new = true ∧ asks old = false) ↔ ("database" ∈ new.keys ∧ "database" ∉ old.keys) := by simp [asks]
  rw [if_congr rising rfl rfl,announcement]
  by_cases requested : "database" ∈ new.keys ∧ "database" ∉ old.keys
  · rw [if_pos requested,if_pos requested]
    split <;> rfl
  · rw [if_neg requested,if_neg requested]
    split
    · rfl
    · split <;> rfl

theorem count_announcements (old : Bag) (seen : List Bag) :
    (announcements old seen).countP isRequest = rises asks (asks old) seen := by
  induction seen generalizing old with
  | nil => rfl
  | cons new seen ih => rw [announcements,List.countP_append,request_iff,ih,rises]

/-! ### The snapshot -/

/-- The snapshot is what a leader has seen last. -/
def Snapshot (r : Relation) (seen : List Bag) : Prop :=
  r.own.get "data" = seen.getLast?.map (fun bag => String.ofList (dumps (dict (dataOf bag).entries)))

theorem lookup_dict (entries : List (String × String)) (key : String) :
    (entries.map (fun entry => (textOf entry.1.toList,stringOf entry.2))).lookup (textOf key.toList) =
      (entries.lookup key).map stringOf := by
  induction entries with
  | nil => rfl
  | cons entry entries ih =>
    obtain ⟨k,v⟩ := entry
    rw [List.map_cons,List.lookup_cons,List.lookup_cons,ih]
    by_cases same : key = k
    · simp [same]
    · have texts : (textOf key.toList == textOf k.toList) = false := by
        simpa using fun equal => same (Json.textOf_injective equal)
      have keys : (key == k) = false := by simpa using same
      rw [texts,keys]

/-- The entries of a snapshot, as they are read. -/
def membersOf (bag : Bag) : List (Json.Text × Json.Value) :=
  (dataOf bag).entries.map (fun entry => (textOf entry.1.toList,stringOf entry.2))

theorem read_snapshot {r : Relation} {seen : List Bag} (snapshot : Snapshot r seen) :
    ∃ members, getEncodedDict r.own "data" = .ok (some members) ∧ members = membersOf (lastSeen seen) := by
  unfold Snapshot at snapshot
  unfold getEncodedDict
  rw [snapshot]
  cases last : seen.getLast? with
  | none => exact ⟨[],rfl,by rw [lastSeen,last]; rfl⟩
  | some bag =>
    have read : loads (String.ofList (dumps (dict (dataOf bag).entries))).toList =
        some (dict (dataOf bag).entries) := by
      rw [String.toList_ofList]
      exact Json.loads_dumps (Json.sound_dict (dataOf bag).distinct)
    refine ⟨membersOf bag,?_,by rw [lastSeen,last]; rfl⟩
    simp only [Option.map_some,Option.getD_some,read]
    rfl

theorem get_dataOf (bag : Bag) {key : String} (other : key ≠ "data") : (dataOf bag).get key = bag.get key := by
  rw [dataOf,Mapping.get_filter,if_pos (by simpa using other)]

theorem lookup_membersOf (bag : Bag) {key : String} (other : key ≠ "data") :
    (membersOf bag).lookup (textOf key.toList) = (bag.get key).map stringOf := by
  rw [membersOf,lookup_dict,← get_dataOf bag other]
  rfl

theorem mem_added (old new : Bag) {key : String} (other : key ≠ "data") :
    key ∈ (diffOf (membersOf old) (dataOf new)).added ↔ key ∈ new.keys ∧ key ∉ old.keys := by
  rw [diffOf,List.mem_filter,lookup_membersOf old other,Mapping.mem_keys,get_dataOf new other,Mapping.mem_keys,
    Mapping.mem_keys]
  cases old.get key <;> simp

theorem mem_changed (old new : Bag) {key : String} (other : key ≠ "data") :
    key ∈ (diffOf (membersOf old) (dataOf new)).changed ↔
      ∃ a b, old.get key = some a ∧ new.get key = some b ∧ a ≠ b := by
  rw [diffOf,List.mem_filter,lookup_membersOf old other,Mapping.mem_keys,get_dataOf new other]
  cases before : old.get key with
  | none => simp
  | some a =>
    cases now : new.get key with
    | none => simp
    | some b =>
      have texts : textOf a.toList = textOf b.toList ↔ a = b := ⟨Json.textOf_injective,fun same => by rw [same]⟩
      simp [isText,stringOf,texts]

/-- Reading the snapshot back announces what the two databags say. -/
theorem emission_eq (old new : Bag) : emission (diffOf (membersOf old) (dataOf new)) = announcement old new := by
  have database := @mem_added old new "database" (by decide)
  have entity := @mem_added old new "entity-type" (by decide)
  have permissions := @mem_added old new "entity-permissions" (by decide)
  have altered := @mem_changed old new "entity-permissions" (by decide)
  have either : (("entity-permissions" ∈ new.keys ∧ "entity-permissions" ∉ old.keys) ∨
      ∃ a b, old.get "entity-permissions" = some a ∧ new.get "entity-permissions" = some b ∧ a ≠ b) ↔
      "entity-permissions" ∈ new.keys ∧ new.get "entity-permissions" ≠ old.get "entity-permissions" := by
    rw [Mapping.mem_keys,Mapping.mem_keys]
    cases old.get "entity-permissions" <;> cases new.get "entity-permissions" <;> simp [eq_comm]
  simp only [emission,announcement,database,entity,permissions,altered,either]
  by_cases requested : "database" ∈ new.keys ∧ "database" ∉ old.keys
  · by_cases typed : "entity-type" ∈ new.keys ∧ "entity-type" ∉ old.keys
    · simp only [requested,typed]
      simp
    · simp only [requested,typed]
      simp
  · by_cases typed : "entity-type" ∈ new.keys ∧ "entity-type" ∉ old.keys
    · simp only [requested,typed]
      simp
    · simp only [requested,typed]
      simp

/-! ### What every run keeps -/

/-- Two things that leaders have seen one after the other do not change what a user is. -/
def Steady (old new : Bag) : Prop :=
  ∀ key ∈ entityKeys, ∀ a b, old.get key = some a → new.get key = some b → a = b

structure Tracks (w : World) : Prop where
  snapshot : Snapshot w.relation w.seen
  emitted : w.emitted = announcements Mapping.empty w.seen
  steady : w.seen.IsChain Steady

theorem handle_ok {enabled : Bool} {ids : Identifiers} {handler : Handler} {r r' : Relation}
    (done : handler.handle enabled ids r = .ok r') : publish enabled ids handler.settings r = .ok r' := by
  obtain ⟨s,published,done⟩ := bind_ok done
  by_cases raises : handler.raises = true
  · rw [if_pos raises] at done
    cases done
  · rw [if_neg raises] at done
    cases done
    exact published

/-- A relation after the snapshot has been taken. -/
def snapped (r : Relation) : Relation :=
  { r with own := write r.own "data" (String.ofList (dumps (dict (dataOf r.remote).entries))) }

/-- What the hook of a leader has done when it returns: it has taken the snapshot, found
    the entity unchanged and, for a request, let the charm publish. -/
theorem relationChanged_ok {enabled : Bool} {ids : Identifiers} {handler : Handler} {w : World}
    {emitted : Option Emission} {r : Relation} (snapshot : Snapshot w.relation w.seen)
    (done : onRelationChanged enabled ids true handler w.relation = .ok (emitted,r)) :
    emitted = announcement (lastSeen w.seen) w.relation.remote ∧ Steady (lastSeen w.seen) w.relation.remote ∧
      (if emitted = some .databaseRequested then publish enabled ids handler.settings (snapped w.relation) = .ok r
        else r = snapped w.relation) := by
  obtain ⟨_,_,done⟩ := bind_ok done
  obtain ⟨_,_,done⟩ := bind_ok done
  rw [if_pos rfl] at done
  obtain ⟨members,read,members_⟩ := read_snapshot snapshot
  obtain ⟨⟨d,s⟩,compared,done⟩ := bind_ok done
  rw [diff,read] at compared
  cases compared
  obtain ⟨_,valid,done⟩ := bind_ok done
  rw [Option.getD_some,members_] at valid done
  have steady : Steady (lastSeen w.seen) w.relation.remote := by
    intro key member a b before now
    by_contra changed
    rw [validateEntityConsistency,if_pos] at valid
    · cases valid
    · apply List.any_eq_true.mpr
      have other : key ≠ "data" := by
        rintro rfl
        revert member
        decide
      exact ⟨key,member,List.contains_iff_mem.mpr ((mem_changed _ _ other).mpr ⟨a,b,before,now,changed⟩)⟩
  rw [emission_eq] at done
  by_cases asked : announcement (lastSeen w.seen) w.relation.remote = some .databaseRequested
  · rw [if_pos asked] at done
    obtain ⟨t,handled,done⟩ := bind_ok done
    cases done
    exact ⟨rfl,steady,by rw [if_pos asked]; exact handle_ok handled⟩
  · rw [if_neg asked] at done
    cases done
    exact ⟨rfl,steady,by rw [if_neg asked]; rfl⟩

theorem snapshot_snapped (r : Relation) (seen : List Bag) : Snapshot (snapped r) (seen ++ [r.remote]) := by
  show (write r.own "data" (String.ofList (dumps (dict (dataOf r.remote).entries)))).get "data" = _
  have full : String.ofList (dumps (dict (dataOf r.remote).entries)) ≠ "" := by
    intro empty
    have nothing := congrArg String.toList empty
    rw [String.toList_ofList,dict,Json.dumps] at nothing
    cases nothing
  rw [get_write,if_pos rfl,Helpers.nonEmpty_some full,List.getLast?_concat]
  rfl

/-- The hook of a unit that does not lead changes nothing. -/
theorem step_follower (enabled : Bool) (w : World) (ids : Identifiers) (handler : Handler) :
    step enabled w (.relationChanged false ids handler) = w := by
  cases hook : onRelationChanged enabled ids false handler w.relation with
  | error e => rw [step,hook]
  | ok result =>
    rw [step,hook]
    obtain ⟨_,_,hook⟩ := bind_ok hook
    obtain ⟨_,_,hook⟩ := bind_ok hook
    cases hook
    show World.mk _ _ _ (w.emitted ++ []) = w
    rw [List.append_nil]
    rfl

theorem tracks_step (enabled : Bool) {w : World} (tracks : Tracks w) (e : Event) : Tracks (step enabled w e) := by
  cases e with
  | client remote => exact ⟨tracks.snapshot,tracks.emitted,tracks.steady⟩
  | publish leader ids handler =>
    cases leader with
    | false => exact tracks
    | true =>
      cases handled : handler.handle enabled ids w.relation with
      | error e =>
        rw [step,if_pos rfl,handled]
        exact tracks
      | ok r =>
        rw [step,if_pos rfl,handled]
        exact ⟨(publish_frame (handle_ok handled)).2.trans tracks.snapshot,tracks.emitted,tracks.steady⟩
  | relationChanged leader ids handler =>
    cases leader with
    | false =>
      rw [step_follower]
      exact tracks
    | true =>
      cases hook : onRelationChanged enabled ids true handler w.relation with
      | error e =>
        rw [step,hook]
        exact tracks
      | ok result =>
        obtain ⟨emitted,r⟩ := result
        rw [step,hook]
        obtain ⟨announced,steady,left⟩ := relationChanged_ok tracks.snapshot hook
        refine ⟨?_,?_,?_⟩
        · have fresh := snapshot_snapped w.relation w.seen
          by_cases asked : emitted = some .databaseRequested
          · rw [if_pos asked] at left
            exact (publish_frame left).2.trans fresh
          · rw [if_neg asked] at left
            rw [left]
            exact fresh
        · show w.emitted ++ emitted.toList = announcements Mapping.empty (w.seen ++ [w.relation.remote])
          rw [announcements_append,tracks.emitted,announced]
          rfl
        · refine List.isChain_append.mpr ⟨tracks.steady,List.IsChain.singleton _,fun old last new first => ?_⟩
          cases first
          rwa [lastSeen,show w.seen.getLast? = some old from last] at steady

theorem tracks_run (enabled : Bool) {w : World} (tracks : Tracks w) (events : List Event) :
    Tracks (run enabled w events) := by
  induction events generalizing w with
  | nil => exact tracks
  | cons e events ih => exact ih (tracks_step enabled tracks e)

theorem tracks_fresh (remote : Bag) : Tracks (fresh remote) := ⟨rfl,rfl,List.IsChain.nil⟩

/-! ### Requests and entities -/

/-- A request is emitted once: over any run, the committed events are those that the
    databags seen by leaders call for, and there is one request more than there are
    withdrawals while the client asks for a database, and as many as that otherwise. -/
theorem requests_emitted (enabled : Bool) (remote : Bag) (events : List Event) :
    (run enabled (fresh remote) events).emitted =
      announcements Mapping.empty (run enabled (fresh remote) events).seen ∧
    (run enabled (fresh remote) events).emitted.countP isRequest =
      falls asks false (run enabled (fresh remote) events).seen +
        (asks (lastSeen (run enabled (fresh remote) events).seen)).toNat := by
  have tracks := tracks_run enabled (tracks_fresh remote) events
  refine ⟨tracks.emitted,?_⟩
  have balance := rises_eq_falls asks false (run enabled (fresh remote) events).seen
  have last : ((run enabled (fresh remote) events).seen.getLast?.map asks).getD false =
      asks (lastSeen (run enabled (fresh remote) events).seen) := by
    rw [lastSeen]
    cases (run enabled (fresh remote) events).seen.getLast? <;> rfl
  have start : asks Mapping.empty = false := rfl
  rw [tracks.emitted,count_announcements,start]
  rw [last] at balance
  exact balance

/-- While the client's databag differs from what was seen last in what a user is, a
    leader's hook on it raises. -/
theorem relationChanged_raises {enabled : Bool} {w : World} (tracks : Tracks w) {key : String} (entity : key ∈ entityKeys)
    {a b : String} (before : (lastSeen w.seen).get key = some a) (now : w.relation.remote.get key = some b)
    (other : a ≠ b) (ids : Identifiers) (handler : Handler) :
    ∃ e, onRelationChanged enabled ids true handler w.relation = .error e := by
  cases hook : onRelationChanged enabled ids true handler w.relation with
  | error e => exact ⟨e,rfl⟩
  | ok result =>
    obtain ⟨-,steady,-⟩ := relationChanged_ok tracks.snapshot hook
    exact absurd (steady key entity a b before now) other

/-- The roles and the type of an entity are the same in all that leaders have seen one
    after the other while the client gave them. Where it has changed them, a leader's
    hook on the change raises, and no hook on it leaves anything behind. -/
theorem entity_unchanged (enabled : Bool) (remote : Bag) (events : List Event) {key : String} (entity : key ∈ entityKeys) :
    (∀ part, part <:+: (run enabled (fresh remote) events).seen → (∀ bag ∈ part, key ∈ bag.keys) →
      ∀ old ∈ part, ∀ new ∈ part, old.get key = new.get key) ∧
    ∀ a b, (lastSeen (run enabled (fresh remote) events).seen).get key = some a →
      (run enabled (fresh remote) events).relation.remote.get key = some b → a ≠ b → ∀ ids handler,
        (∃ e, onRelationChanged enabled ids true handler (run enabled (fresh remote) events).relation = .error e) ∧
        ∀ leader, step enabled (run enabled (fresh remote) events) (.relationChanged leader ids handler) =
          run enabled (fresh remote) events := by
  have tracks := tracks_run enabled (tracks_fresh remote) events
  generalize run enabled (fresh remote) events = w at tracks
  constructor
  · intro part within kept
    have chain : part.IsChain (fun old new => old.get key = new.get key) := by
      have steady : part.IsChain Steady := List.IsChain.infix tracks.steady within
      refine List.IsChain.imp_of_mem_imp (fun old new before now agree => ?_) steady
      obtain ⟨a,first⟩ := Option.isSome_iff_exists.mp (Mapping.mem_keys.mp (kept old before))
      obtain ⟨b,second⟩ := Option.isSome_iff_exists.mp (Mapping.mem_keys.mp (kept new now))
      rw [first,second,agree key entity a b first second]
    have trans : IsTrans Bag (fun old new => old.get key = new.get key) := ⟨fun _ _ _ => Eq.trans⟩
    have symm : Std.Symm (fun old new : Bag => old.get key = new.get key) := ⟨fun _ _ same => same.symm⟩
    have pairs := List.isChain_iff_pairwise.mp chain
    intro old before new now
    exact List.Pairwise.forall_of_forall (R := fun old new : Bag => old.get key = new.get key) (fun _ _ => rfl) pairs
      before now
  · intro a b before now other ids handler
    obtain ⟨e,raised⟩ := relationChanged_raises tracks entity before now other ids handler
    refine ⟨⟨e,raised⟩,fun leader => ?_⟩
    cases leader with
    | false => exact step_follower enabled w ids handler
    | true => rw [step,raised]

def shop : Bag :=
  Mapping.empty.update
    [("database","shop"),("extra-user-roles","admin"),("requested-secrets","[\"username\", \"password\"]")]

def shopIds : Identifiers := ⟨fun g => "secret:" ++ g.name,fun g => by cases g <;> decide⟩

/-- The client gets its user, and then asks for other roles, which no hook lets through. -/
def shopEvents : List Event :=
  [.relationChanged true shopIds ⟨[.database "shop",.credentials "relation-3" "first"],false⟩,
   .client (shop.set "extra-user-roles" "charmed_dml"),
   .relationChanged true shopIds ⟨[],false⟩,
   .publish true shopIds ⟨[.credentials "relation-3" "second",.endpoints "10.0.0.1:3306"],false⟩]

def shopWorld : World := run true (fresh shop) shopEvents

/-- After the last of the events a hook of a leader still raises. -/
theorem shop_roles_unchanged :
    (shopWorld.seen.all fun old => shopWorld.seen.all fun new =>
      old.get "extra-user-roles" == new.get "extra-user-roles") = true ∧
    ∃ e, onRelationChanged true shopIds true ⟨[],false⟩ shopWorld.relation = .error e := by
  have entity : "extra-user-roles" ∈ entityKeys := by decide
  obtain ⟨agree,refused⟩ := entity_unchanged true shop shopEvents entity
  have same := agree shopWorld.seen List.infix_rfl (by decide +kernel)
  have raised := refused "admin" "charmed_dml" (by decide +kernel) (by decide +kernel) (by decide) shopIds ⟨[],false⟩
  refine ⟨List.all_eq_true.mpr fun old before => List.all_eq_true.mpr fun new now => ?_,raised.1⟩
  exact beq_iff_eq.mpr (same old before new now)

/-! ### Where the settings are -/

/-- The client asks for the same secrets, whatever else it changes. -/
def Constant (enabled : Bool) (fields : List Json.Text) : Event → Prop
  | .client remote => Asks enabled remote fields
  | _ => True

structure Stored (enabled : Bool) (fields : List Json.Text) (w : World) : Prop where
  asks : Asks enabled w.relation.remote fields
  keeps : Keeps fields w.relation w.last

theorem keeps_snapped {enabled : Bool} {fields : List Json.Text} {r : Relation} {last : History}
    (asks : Asks enabled r.remote fields) (keeps : Keeps fields r last) : Keeps fields (snapped r) last := by
  have other (key : String) (apart : key ≠ "data") : (snapped r).own.get key = r.own.get key := by
    show (write r.own "data" _).get key = _
    rw [get_write,if_neg apart]
  refine ⟨fun key asked => ?_,keeps.secret,fun key open_ free => ?_,fun g s present => ?_⟩
  · rw [other key (by rintro rfl; exact asks.free "data" reserved_data asked)]
    exact keeps.hidden key asked
  · rw [other key (by rintro rfl; exact free reserved_data)]
    exact keeps.shown key open_ free
  · rw [other g.field (by cases g <;> decide)]
    exact keeps.named g s present

theorem stored_step {enabled : Bool} {fields : List Json.Text} {w : World} (tracks : Tracks w)
    (stored : Stored enabled fields w) {e : Event} (constant : Constant enabled fields e) :
    Stored enabled fields (step enabled w e) := by
  cases e with
  | client remote => exact ⟨constant,⟨stored.keeps.hidden,stored.keeps.secret,stored.keeps.shown,stored.keeps.named⟩⟩
  | publish leader ids handler =>
    cases leader with
    | false => exact stored
    | true =>
      cases handled : handler.handle enabled ids w.relation with
      | error e =>
        rw [step,if_pos rfl,handled]
        exact stored
      | ok r =>
        rw [step,if_pos rfl,handled]
        have published := handle_ok handled
        have asks : Asks enabled r.remote fields := (publish_frame published).1 ▸ stored.asks
        exact ⟨asks,publish_keeps stored.asks stored.keeps published⟩
  | relationChanged leader ids handler =>
    cases leader with
    | false =>
      rw [step_follower]
      exact stored
    | true =>
      cases hook : onRelationChanged enabled ids true handler w.relation with
      | error e =>
        rw [step,hook]
        exact stored
      | ok result =>
        obtain ⟨emitted,r⟩ := result
        rw [step,hook]
        obtain ⟨_,_,left⟩ := relationChanged_ok tracks.snapshot hook
        have kept := keeps_snapped stored.asks stored.keeps
        by_cases asked : emitted = some .databaseRequested
        · rw [if_pos asked] at left
          have asks : Asks enabled r.remote fields := (publish_frame left).1 ▸ stored.asks
          refine ⟨asks,?_⟩
          simp only [if_pos asked]
          exact publish_keeps (r := snapped w.relation) stored.asks kept left
        · rw [if_neg asked] at left
          rw [left]
          refine ⟨stored.asks,?_⟩
          simp only [if_neg asked]
          exact kept

theorem stored_run {enabled : Bool} {fields : List Json.Text} {w : World} (tracks : Tracks w)
    (stored : Stored enabled fields w) {events : List Event} (constant : ∀ e ∈ events, Constant enabled fields e) :
    Stored enabled fields (run enabled w events) := by
  induction events generalizing w with
  | nil => exact stored
  | cons e events ih =>
    obtain ⟨first,more⟩ := List.forall_mem_cons.mp constant
    exact ih (tracks_step enabled tracks e) (stored_step tracks stored first) more

/-- A field that the client has asked for as a secret is never in the databag: what was
    written last is in the secret of its group, and the databag says which that is. -/
theorem secrets_hidden {enabled : Bool} {fields : List Json.Text} {remote : Bag} (asks : Asks enabled remote fields)
    {events : List Event} (constant : ∀ e ∈ events, Constant enabled fields e) {field : String}
    (asked : textOf field.toList ∈ fields) :
    (run enabled (fresh remote) events).relation.own.get field = none ∧
    held (run enabled (fresh remote) events).relation (groupOf field) field =
      (run enabled (fresh remote) events).last field ∧
    ∀ s, (run enabled (fresh remote) events).relation.secrets (groupOf field) = some s →
      (run enabled (fresh remote) events).relation.own.get (groupOf field).field = some s.id := by
  have keeps := (stored_run (tracks_fresh remote) ⟨asks,keeps_fresh fields remote⟩ constant).keeps
  exact ⟨keeps.hidden field asked,keeps.secret field asked,fun s present => keeps.named _ s present⟩

def shopFields : List Json.Text := ["username","password"].map (fun field => textOf field.toList)

theorem shop_asks : Asks true shop shopFields := ⟨by decide +kernel,by decide +kernel⟩

theorem shop_constant : ∀ e ∈ shopEvents, Constant true shopFields e :=
  List.forall_mem_cons.mpr ⟨trivial,List.forall_mem_cons.mpr ⟨⟨by decide +kernel,by decide +kernel⟩,
    List.forall_mem_cons.mpr ⟨trivial,List.forall_mem_cons.mpr ⟨trivial,fun _ member => (by cases member)⟩⟩⟩⟩

theorem shop_password_hidden :
    (run true (fresh shop) shopEvents).relation.own.get "password" = none ∧
    held (run true (fresh shop) shopEvents).relation (groupOf "password") "password" =
      (run true (fresh shop) shopEvents).last "password" ∧
    ∀ s, (run true (fresh shop) shopEvents).relation.secrets (groupOf "password") = some s →
      (run true (fresh shop) shopEvents).relation.own.get (groupOf "password").field = some s.id :=
  secrets_hidden shop_asks shop_constant (by decide +kernel)

/-- What the charm reads back of its own settings is what it wrote last, wherever it is. -/
theorem settings_read_back {enabled : Bool} {fields : List Json.Text} {remote : Bag} (asks : Asks enabled remote fields)
    {events : List Event} (constant : ∀ e ∈ events, Constant enabled fields e) {field : String}
    (free : field ∉ reserved) {found : Option String}
    (read : fetchMyRelationField enabled (run enabled (fresh remote) events).relation field = .ok found) :
    Helpers.nonEmpty found = Helpers.nonEmpty ((run enabled (fresh remote) events).last field) := by
  have stored := stored_run (tracks_fresh remote) ⟨asks,keeps_fresh fields remote⟩ constant
  exact fetch_spec stored.asks stored.keeps free read

theorem shop_password_read_back :
    Helpers.nonEmpty (some "second") = Helpers.nonEmpty ((run true (fresh shop) shopEvents).last "password") :=
  settings_read_back shop_asks shop_constant (by decide +kernel) (by decide +kernel)

end MysqlOperators.RelationEvents
