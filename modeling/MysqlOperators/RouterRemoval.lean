import MysqlOperators.Databases

/-!
The router users of the database relations. A router creates its user as the user of
its relation, whose name the server keeps with the new user; when a unit departs, the
leader is to delete the router user of that unit.
-/
namespace MysqlOperators.RouterRemoval
open MysqlOperators.Program MysqlOperators.Program.Prog MysqlOperators.External MysqlOperators.Clients
open MysqlOperators.Helpers MysqlOperators.Databases
open MysqlOperators.DatabaseUsers (buildDatabaseRelationUsername)

/-! ### The users -/

/-- A user that was created by the user of a relation, for every host. One that was
    created for a unit has the identifier of its router. -/
structure Child (modelUuid : String) where
  user : UserInfo
  relation : Nat
  host : user.host = "%"
  owner : user.attributes.lookup "created_by_user" = some (buildDatabaseRelationUsername modelUuid relation)
  identified : (user.attributes.lookup "created_by_juju_unit").isSome = true →
    ∃ identifier router, user.attributes.lookup "router_id" = some identifier ∧
      DatabaseManager.routerParts identifier = .ok router

namespace Child
variable {modelUuid : String} (c : Child modelUuid)

def unit : Option String := c.user.attributes.lookup "created_by_juju_unit"

/-- The name and the mode of the router. -/
def router : Option (String × String) :=
  match c.user.attributes.lookup "router_id" with
  | none => none
  | some identifier =>
    match DatabaseManager.routerParts identifier with
    | .ok parts => some parts
    | .error _ => none

theorem router_of_unit {unit : String} (created : c.unit = some unit) :
    ∃ identifier router, c.user.attributes.lookup "router_id" = some identifier ∧
      DatabaseManager.routerParts identifier = .ok router ∧ c.router = some router := by
  have present : (c.user.attributes.lookup "created_by_juju_unit").isSome = true :=
    Option.isSome_iff_exists.mpr ⟨unit,created⟩
  obtain ⟨identifier,router,known,parts⟩ := c.identified present
  exact ⟨identifier,router,known,parts,by simp [Child.router,known,parts]⟩

end Child

/-! ### The departure -/

/-- The users of the server, in its order, and the routers in the cluster's metadata. -/
structure World (modelUuid : String) where
  children : List (Child modelUuid)
  routers : List (String × String)

/-- A unit departs from a relation, on a leader that reaches the primary. -/
structure Departure where
  charm : Charm
  modelUuid : String
  relation : Nat
  unit : String
  report : ClusterSetReport
  host : String
  primary : DatabaseManager.primaryIn report = .ok host
  before : World modelUuid
  distinct : (before.children.map (fun c => c.user.account)).Nodup

namespace Departure
variable (d : Departure)

def respond (w : World d.modelUuid) (call : Call) : Except Exn (Reply call) × World d.modelUuid :=
  match call with
  | .isLeader => (.ok true,w)
  | .clusterSetStatus _ => (.ok d.report,w)
  | .searchUsers _ attributes =>
    (.ok ((w.children.filter (fun c => attributes.all fun wanted =>
      c.user.attributes.lookup wanted.1 == some wanted.2)).map Child.user),w)
  | .deleteUser _ name host =>
    (.ok (),{ w with children := w.children.filter (fun c => c.user.account != (name,host)) })
  | .removeRouter _ name mode => (.ok (),{ w with routers := w.routers.filter (· != (name,mode)) })
  | _ => (.ok default,w)

def after : World d.modelUuid := (run d.respond (onRelationDeparted d.charm d.relation d.unit) d.before).2

/-- A user that the departing unit created under the relation. -/
def owned (c : Child d.modelUuid) : Bool := c.relation == d.relation && c.unit == some d.unit

/-- The users of the unit under the relation are deleted, and their routers removed. -/
def Removes : Prop :=
  d.after.children = d.before.children.filter (fun c => !d.owned c) ∧
    d.after.routers = d.before.routers.filter
      (fun router => !(d.before.children.any fun c => d.owned c && c.router == some router))

end Departure

/-! ### The owner's name -/

/-- An id of seventeen digits, with which another one begins. -/
def Fills (id other : Nat) : Prop :=
  (toString id).toList.length = 17 ∧ (toString other).toList.take 17 = (toString id).toList

instance (id other : Nat) : Decidable (Fills id other) := inferInstanceAs (Decidable (_ ∧ _))

theorem username_text (modelUuid : String) (relation : Nat) :
    (buildDatabaseRelationUsername modelUuid relation).toList =
      "relation-".toList ++ ((toString relation).toList ++ '_' :: modelUuid.toList.filter (· != '-')).take 17 := by
  have head : "relation-".toList.length = 9 := by decide
  have underscore : "_".toList = ['_'] := by decide
  simp only [buildDatabaseRelationUsername,String.toList_ofList,String.toList_append,underscore,List.append_assoc]
  rw [List.take_append,head,List.take_of_length_le (by rw [head]; omega)]
  rfl

theorem digits_plain (n : Nat) : '_' ∉ (toString n).toList := by
  intro member
  have digit : ('_').isDigit = true := by
    rw [Nat.toString_eq_repr,Nat.toList_repr] at member
    exact Nat.isDigit_of_mem_toDigits (by decide) (by decide) member
  cases digit

/-- The name without the model is a published one only where the id leaves no room for
    the model. -/
theorem username_eq_iff (modelUuid : String) (id other : Nat) :
    buildDatabaseRelationUsername modelUuid other = "relation-" ++ toString id ↔ Fills id other := by
  rw [← String.toList_inj,username_text,String.toList_append,List.append_cancel_left_eq]
  have plain := digits_plain id
  by_cases long : 17 ≤ (toString other).toList.length
  · rw [List.take_append_of_le_length long]
    constructor
    · intro same
      have length := congrArg List.length same
      simp only [List.length_take] at length
      exact ⟨by omega,same⟩
    · exact And.right
  · refine iff_of_false (fun same => plain ?_) (fun fills => ?_)
    · rw [← same,List.mem_take_iff_getElem]
      refine ⟨(toString other).toList.length,?_,by simp⟩
      rw [List.length_append,List.length_cons]
      omega
    · have length := congrArg List.length fills.2
      simp only [List.length_take,fills.1] at length
      omega

/-! ### The removal -/

section
variable {d : Departure}

/-- The users that the handler takes for those of the unit. -/
def Departure.taken (d : Departure) (c : Child d.modelUuid) : Bool :=
  c.unit == some d.unit && decide (Fills d.relation c.relation)

/-- The search of the handler, by the attributes that it asks for. -/
theorem search_eq (d : Departure) (w : World d.modelUuid) :
    d.respond w (.searchUsers .own [("created_by_juju_unit",d.unit),
      ("created_by_user","relation-" ++ toString d.relation)]) =
        (.ok ((w.children.filter d.taken).map Child.user),w) := by
  have same : (fun c : Child d.modelUuid => [("created_by_juju_unit",d.unit),
      ("created_by_user","relation-" ++ toString d.relation)].all fun wanted =>
        c.user.attributes.lookup wanted.1 == some wanted.2) = d.taken := by
    funext c
    have owner : (c.user.attributes.lookup "created_by_user" == some ("relation-" ++ toString d.relation)) =
        decide (Fills d.relation c.relation) := by
      rw [c.owner,Bool.eq_iff_iff,beq_iff_eq,decide_eq_true_iff,Option.some.injEq]
      exact username_eq_iff d.modelUuid d.relation c.relation
    simp only [List.all_cons,List.all_nil,Bool.and_true,owner]
    rfl
  simp only [Departure.respond,same]

/-- The world without a user and its router. -/
def removed (w : World d.modelUuid) (c : Child d.modelUuid) (router : String × String) : World d.modelUuid :=
  ⟨w.children.filter (fun other => other.user.account != c.user.account),w.routers.filter (· != router)⟩

theorem removeRouter_run (d : Departure) :
    run d.respond (DatabaseManager.removeRouter ("relation-" ++ toString d.relation) d.unit) d.before =
      match d.before.children.find? d.taken with
      | none => (.ok (),d.before)
      | some c => (.ok (),match c.router with
        | none => d.before
        | some router => removed d.before c router) := by
  have status : d.respond d.before (.clusterSetStatus .own) = (.ok d.report,d.before) := rfl
  simp only [DatabaseManager.removeRouter,DatabaseManager.primaryHost_eq,InstanceClient.fetchUserByAttrs,run_bind,
    run_perform,status,run_ofExcept,d.primary,search_eq,run_pure,List.head?_map,List.head?_filter]
  cases found : d.before.children.find? d.taken with
  | none => rfl
  | some c =>
    have taken := List.find?_some found
    simp only [Departure.taken,Bool.and_eq_true,beq_iff_eq] at taken
    obtain ⟨identifier,router,known,parts,has⟩ := c.router_of_unit taken.1
    have account : (c.user.name,"%") = c.user.account := by rw [UserInfo.account,c.host]
    simp only [Option.map_some,run_bind,InstanceClient.deleteUser,run_perform,Departure.respond,known,run_ofExcept,
      parts,has,account]
    rfl

theorem after_eq (d : Departure) :
    d.after = match d.before.children.find? d.taken with
      | none => d.before
      | some c => match c.router with
        | none => d.before
        | some router => removed d.before c router := by
  have leads : run d.respond isLeader d.before = (.ok true,d.before) := rfl
  have flagged : run d.respond DatabaseManager.setRemovingFlag d.before = (.ok (),d.before) := rfl
  have handled : d.after = (run d.respond ((DatabaseManager.removeRouter ("relation-" ++ toString d.relation)
      d.unit).tryExcept Exn.isRuntimeError (fun _ => pure ())) d.before).2 := by
    by_cases own : d.unit = unitName d.charm.appName d.charm.unit
    · simp only [Departure.after,onRelationDeparted,if_pos own,run_bind,flagged,leads,if_true]
    · simp only [Departure.after,onRelationDeparted,if_neg own,run_bind,leads,if_true]
  rw [handled,run_tryExcept,removeRouter_run]
  cases d.before.children.find? d.taken <;> rfl

/-- A name that nothing else bears selects one item. -/
theorem filter_named {α β : Type} [BEq β] [LawfulBEq β] {name : α → β} {l : List α} {a : α}
    (distinct : (l.map name).Nodup) (member : a ∈ l) : l.filter (fun b => name b == name a) = [a] := by
  induction l with
  | nil => cases member
  | cons b rest ih =>
    obtain ⟨new,distinct⟩ := List.nodup_cons.mp distinct
    rcases List.mem_cons.mp member with rfl | later
    · have none_ : rest.filter (fun b => name b == name a) = [] := by
        refine List.filter_eq_nil_iff.mpr fun b inside same => new ?_
        exact List.mem_map.mpr ⟨b,inside,by simpa using same⟩
      simp [none_]
    · have other : name b ≠ name a := by
        intro same
        exact new (List.mem_map.mpr ⟨a,later,same.symm⟩)
      simpa [other] using ih distinct later

theorem removes_none (found : d.before.children.find? d.taken = none) :
    d.Removes ↔ d.before.children.filter d.owned = [] := by
  have after : d.after = d.before := by rw [after_eq,found]
  rw [Departure.Removes,after,List.filter_eq_nil_iff]
  constructor
  · rintro ⟨children,-⟩ c member owned
    have kept := List.filter_eq_self.mp children.symm c member
    simp [owned] at kept
  · intro foreign
    refine ⟨(List.filter_eq_self.mpr fun c member => ?_).symm,(List.filter_eq_self.mpr fun router _ => ?_).symm⟩
    · simpa using foreign c member
    · simp only [Bool.not_eq_true',List.any_eq_false]
      intro c member
      simp [foreign c member]

theorem removes_some {c : Child d.modelUuid} (found : d.before.children.find? d.taken = some c) :
    d.Removes ↔ d.before.children.filter d.owned = [c] := by
  have member : c ∈ d.before.children := List.mem_of_find?_eq_some found
  have taken := List.find?_some found
  simp only [Departure.taken,Bool.and_eq_true,beq_iff_eq] at taken
  obtain ⟨-,router,-,-,has⟩ := c.router_of_unit taken.1
  have after : d.after = removed d.before c router := by rw [after_eq,found]; simp only [has]
  have named := filter_named d.distinct member
  rw [Departure.Removes,after]
  constructor
  · rintro ⟨children,-⟩
    rw [← named]
    refine List.filter_congr fun other inside => ?_
    have kept : other ∈ d.before.children.filter (fun x => x.user.account != c.user.account) ↔
        other ∈ d.before.children.filter (fun x => !d.owned x) :=
      iff_of_eq (congrArg (other ∈ ·) children)
    simp only [List.mem_filter,inside,true_and,bne_iff_ne,Bool.not_eq_true'] at kept
    rw [Bool.eq_iff_iff,beq_iff_eq,← not_iff_not,Bool.not_eq_true]
    exact kept.symm
  · intro only
    have owned_iff (x : Child d.modelUuid) (inside : x ∈ d.before.children) : d.owned x = true ↔ x = c := by
      have listed : x ∈ d.before.children.filter d.owned ↔ x = c := by rw [only]; simp
      simpa [inside] using listed
    have name_iff (x : Child d.modelUuid) (inside : x ∈ d.before.children) :
        (x.user.account == c.user.account) = true ↔ x = c := by
      have listed : x ∈ d.before.children.filter (fun y => y.user.account == c.user.account) ↔ x = c := by
        rw [named]
        simp
      simpa [inside] using listed
    refine ⟨List.filter_congr fun x inside => ?_,List.filter_congr fun other _ => ?_⟩
    · rw [bne,Bool.eq_iff_iff,Bool.not_eq_true',Bool.not_eq_true',← Bool.not_eq_true,← Bool.not_eq_true,
        name_iff x inside,owned_iff x inside]
    · rw [Bool.eq_iff_iff,bne_iff_ne,Bool.not_eq_true',List.any_eq_false]
      constructor
      · intro different x inside
        rw [Bool.and_eq_true,owned_iff x inside]
        rintro ⟨rfl,same⟩
        rw [has] at same
        have equal : router = other := by simpa using same
        exact different equal.symm
      · intro none_ same
        refine none_ c member ?_
        rw [Bool.and_eq_true,owned_iff c member,has,same]
        simp

end

/-- The removal is right if and only if the users of the unit under the relation are
    those that the handler takes for them: the first one under a relation whose id
    begins with the seventeen digits of this one, and none where the id has another
    number of digits. -/
theorem removes_iff (d : Departure) :
    d.Removes ↔ d.before.children.filter d.owned = (d.before.children.find? d.taken).toList := by
  cases found : d.before.children.find? d.taken with
  | none => exact removes_none found
  | some c => exact removes_some found

/-! ### A router that stays -/

theorem identifier_parts : DatabaseManager.routerParts "host::system" = .ok ("host","system") := by
  have split_ : "host::system".splitOn "::" = ["host","system"] := by
    unfold String.splitOn
    rw [if_neg (by decide)]
    -- one step for each character, those of the separator taken up
    iterate 12
      rw [String.splitOnAux]
      first
        | rw [if_neg (by decide +kernel),if_neg (by decide +kernel)]
        | (rw [if_neg (by decide +kernel),if_pos (by decide +kernel)]
           dsimp only
           first | rw [if_pos (by decide +kernel)] | rw [if_neg (by decide +kernel)])
    rw [String.splitOnAux,if_pos (by decide +kernel)]
    decide +kernel
  rw [DatabaseManager.routerParts,split_]

/-- The user of a router with its unit. -/
def routerChild : Child "99200344-b67b-4e98-8a4c-9e6d8d7f1b2a" where
  user := ⟨"mysql_router1_gwa0oy6xnp8l","%",[("created_by_user","relation-7_99200344b67b4e9"),
    ("created_by_juju_unit","router/0"),("router_id","host::system")]⟩
  relation := 7
  host := rfl
  owner := by decide +kernel
  identified _ := ⟨"host::system",("host","system"),rfl,identifier_parts⟩

def departed : Departure where
  charm := ⟨.vm,"mysql",0,"cluster","10.0.0.1"⟩
  modelUuid := "99200344-b67b-4e98-8a4c-9e6d8d7f1b2a"
  relation := 7
  unit := "router/0"
  report := ⟨"cluster",[("cluster",⟨"OK",some "10.0.0.1:3306"⟩)]⟩
  host := "10.0.0.1"
  primary := by decide +kernel
  before := ⟨[routerChild],[("host","system")]⟩
  distinct := by decide

/-- The handler finds no user, and the one of the router stays. -/
theorem router_stays : ¬ departed.Removes := by
  rintro ⟨children,-⟩
  have stays : departed.after.children.length = 1 := by decide +kernel
  rw [children] at stays
  revert stays
  decide +kernel

end MysqlOperators.RouterRemoval
