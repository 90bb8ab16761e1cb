import MysqlOperators.RouterRemoval
import MysqlOperators.Scripted
import MysqlOperators.Quiet
import Mathlib.Data.List.Nodup
import Mathlib.Algebra.Group.Nat.Defs

/-!
The users of the relations of one model. Their names are cut to 26 characters, and an id
of up to sixteen digits leaves room for the underscore behind it, so that the names of two
relations differ; what is deleted with one relation are the user of that name and those
that it has created.
-/
namespace MysqlOperators.RelationUsers
open MysqlOperators.Program MysqlOperators.Program.Prog MysqlOperators.External MysqlOperators.Clients
open MysqlOperators.Helpers MysqlOperators.Quiet MysqlOperators.Scripted MysqlOperators.Databases
open MysqlOperators.RouterRemoval (username_text digits_plain)
open MysqlOperators.DatabaseUsers (buildDatabaseRelationUsername)

/-! ### The names -/

theorem digits_length {n : Nat} (small : n < 10 ^ 16) : (toString n).toList.length ≤ 16 := by
  rw [String.length_toList,Nat.toString_eq_repr]
  exact (Nat.length_repr_le_iff (by decide)).mpr small

/-- The digits end at the first underscore. -/
theorem digits_front {n m : Nat} {rest rest' : List Char}
    (same : (toString n).toList ++ '_' :: rest = (toString m).toList ++ '_' :: rest') : n = m := by
  have parts := congrArg (Python.split '_') same
  rw [Python.split_append (digits_plain n),Python.split_append (digits_plain m)] at parts
  have numbers := congrArg Python.number (List.cons.inj parts).1
  rw [Python.number_toString,Python.number_toString] at numbers
  exact Option.some.inj numbers

/-- The underscore is within the part that is kept. -/
theorem username_kept {relation : Nat} (small : relation < 10 ^ 16) (modelUuid : String) :
    (buildDatabaseRelationUsername modelUuid relation).toList =
      "relation-".toList ++ ((toString relation).toList ++ '_' ::
        (modelUuid.toList.filter (· != '-')).take (16 - (toString relation).toList.length)) := by
  have short := digits_length small
  rw [username_text,List.take_append,List.take_of_length_le (by omega)]
  have left : 17 - (toString relation).toList.length = 16 - (toString relation).toList.length + 1 := by omega
  rw [left,List.take_succ_cons]

theorem username_injective {modelUuid : String} {first second : Nat} (small : first < 10 ^ 16)
    (small' : second < 10 ^ 16)
    (same : buildDatabaseRelationUsername modelUuid first = buildDatabaseRelationUsername modelUuid second) :
    first = second := by
  have texts := congrArg String.toList same
  rw [username_kept small,username_kept small'] at texts
  exact digits_front (List.append_cancel_left texts)

theorem username_length (modelUuid : String) (relation : Nat) :
    (buildDatabaseRelationUsername modelUuid relation).length ≤ 26 := by
  rw [buildDatabaseRelationUsername,String.length_ofList]
  exact List.length_take_le _ _

/-! ### The server -/

/-- The users of the server, no two with the same name and host. -/
structure Server where
  users : List UserInfo
  distinct : (users.map UserInfo.account).Nodup

namespace Server

/-- The users whose accounts are not dropped. -/
def without (server : Server) (dropped : String × String → Bool) : Server where
  users := server.users.filter (fun user => !dropped user.account)
  distinct := server.distinct.sublist (List.filter_sublist.map _)

/-- The users that have all of the attributes. -/
def search (server : Server) (attributes : List (String × String)) : List UserInfo :=
  server.users.filter fun user => attributes.all fun wanted => user.attributes.lookup wanted.1 == some wanted.2

/-- What a call does if it takes effect. -/
def done (server : Server) : Call → Server
  | .deleteUser _ name host => server.without (· == (name,host))
  | .deleteUsers _ users => server.without (users.map UserInfo.account).contains
  | _ => server

variable (modelUuid : String)

def answer (server : Server) : (c : Call) → Except Exn (Reply c) → Except Exn (Reply c)
  | .modelUuid, .ok _ => .ok modelUuid
  | .searchUsers _ attributes, .ok _ => .ok (server.search attributes)
  | _, r => r

def effect (server : Server) (c : Call) (r : Except Exn (Reply c)) (happened : Bool) : Server :=
  if r.isOk || happened then server.done c else server

end Server

def rules (modelUuid : String) : Rules Server Call Reply Exn := ⟨Server.answer modelUuid,Server.effect⟩

/-- A user that the charm has made for a relation; no user has created it. -/
structure IsRelationUser (modelUuid : String) (relation : Nat) (user : UserInfo) : Prop where
  name : user.name = buildDatabaseRelationUsername modelUuid relation
  uncreated : user.attributes.lookup "created_by_user" = none

/-- The server once a unit has handled that a relation is broken. -/
def afterBroken (modelUuid : String) (script : Script Call Reply Exn) (relation : Nat) (server : Server) : Server :=
  (play (rules modelUuid) script (onRelationBroken relation) server).2.world

/-! ### The deletion -/

def Deletes : Call → Prop
  | .deleteUser _ _ _ | .deleteUsers _ _ => True
  | _ => False

section
variable {modelUuid : String} {script : Script Call Reply Exn} {relation : Nat} {user : UserInfo}

/-- The user is there. -/
def Present (user : UserInfo) (s : Scene Server Call) : Prop := user ∈ s.world.users

theorem present_other (s : Scene Server Call) (c : Call) (r : Except Exn (Reply c)) (happened : Bool)
    (other : ¬ Deletes c) (there : Present user s) : Present user (s.after (rules modelUuid) c r happened) := by
  have unchanged : s.world.done c = s.world := by
    unfold Server.done
    split
    · exact absurd trivial other
    · exact absurd trivial other
    · rfl
  show user ∈ (Server.effect s.world c r happened).users
  rw [Server.effect,unchanged,ite_self]
  exact there

theorem present_without {server : Server} {dropped : String × String → Bool} (there : user ∈ server.users)
    (kept : dropped user.account = false) : user ∈ (server.without dropped).users :=
  List.mem_filter.mpr ⟨there,by simp [kept]⟩

theorem present_effect {server : Server} {c : Call} (r : Except Exn (Reply c)) (happened : Bool)
    (there : user ∈ server.users) (kept : user ∈ (server.done c).users) :
    user ∈ (Server.effect server c r happened).users := by
  unfold Server.effect
  split
  · exact kept
  · exact there

/-- What deletes no users leaves the user there. -/
theorem present_frame {α : Type} {p : Hook α} (avoids : Avoids Deletes p) :
    Leads (rules modelUuid) script (Present user) p (fun _ => Present user) :=
  leads_frame present_other avoids

theorem leads_deleteUser {username : String} (other : user.name ≠ username) (at_ : Target) :
    Leads (rules modelUuid) script (Present user) (InstanceClient.deleteUser at_ username)
      (fun _ => Present user) := by
  refine leads_perform fun s n r happened there _ => present_effect r happened there ?_
  exact present_without there (beq_false_of_ne fun same => other (congrArg Prod.fst same))

/-- Those that are found have the attributes, and none of them is the user. -/
theorem leads_deleteUsersByAttrs {key value : String} (other : user.attributes.lookup key ≠ some value) (at_ : Target) :
    Leads (rules modelUuid) script (Present user) (InstanceClient.deleteUsersByAttrs at_ [(key,value)])
      (fun _ => Present user) := by
  have searches : Leads (rules modelUuid) script (Present user) (ask (.searchUsers at_ [(key,value)]))
      (fun r s => Present user s ∧ ∀ found : List UserInfo, r = .ok found → found = s.world.search [(key,value)]) := by
    refine leads_perform fun s n r happened there answered => ⟨present_other s _ r happened id there,?_⟩
    rintro found rfl
    have kept : (s.after (rules modelUuid) (.searchUsers at_ [(key,value)]) (.ok found) happened).world = s.world := by
      simp [Scene.after,rules,Server.effect,Server.done]
    rw [kept]
    revert answered
    rcases script.reply (.searchUsers at_ [(key,value)]) n with e | listed
    · nofun
    · exact fun answered => Except.ok.inj answered
  refine leads_bind searches (fun found => ?_) (fun _ _ known => known.1)
  refine leads_perform fun s n r happened ⟨there,listed⟩ _ => present_effect r happened there ?_
  refine present_without there (Bool.eq_false_iff.mpr fun named => ?_)
  obtain ⟨x,inside,same⟩ := List.mem_map.mp (List.contains_iff_mem.mp named)
  rw [listed found rfl] at inside
  obtain ⟨member,has⟩ := List.mem_filter.mp inside
  obtain rfl := List.inj_on_of_nodup_map s.world.distinct member there same
  exact other (by simpa using has)

theorem leads_relationUsername (relation : Nat) :
    Leads (rules modelUuid) script (Present user) (relationUsername relation) (fun r s => Present user s ∧
      ∀ username, r = .ok username → username = buildDatabaseRelationUsername modelUuid relation) := by
  have asks : Leads (rules modelUuid) script (Present user) (ask .modelUuid)
      (fun r s => Present user s ∧ ∀ uuid : String, r = .ok uuid → uuid = modelUuid) := by
    refine leads_perform fun s n r happened there answered => ⟨present_other s _ r happened id there,?_⟩
    rintro uuid rfl
    revert answered
    rcases script.reply .modelUuid n with e | told
    · nofun
    · exact fun answered => Except.ok.inj answered
  refine leads_bind asks (fun uuid => leads_ret ?_) (fun _ _ known => ⟨known.1,nofun⟩)
  rintro s ⟨there,told⟩
  refine ⟨there,fun username same => ?_⟩
  rw [← Except.ok.inj same,told uuid rfl]

theorem leads_deleteUsers {username : String} (other : user.name ≠ username)
    (uncreated : user.attributes.lookup "created_by_user" = none) :
    Leads (rules modelUuid) script (Present user) (DatabaseManager.deleteUsers username) (fun _ => Present user) := by
  have primary : Avoids Deletes DatabaseManager.primaryHost := by
    rw [DatabaseManager.primaryHost_eq]
    exact avoids_bind (avoids_ask id) fun report => avoids_ofExcept _
  refine leads_bind (present_frame primary) (fun host => ?_) (fun _ _ there => there)
  refine leads_bind (leads_deleteUser other _) (fun _ => ?_) (fun _ _ there => there)
  exact leads_deleteUsersByAttrs (by simp [uncreated]) _

/-- Whatever the calls come to, the users of other names that no user has created stay. -/
theorem leads_onRelationBroken (other : user.name ≠ buildDatabaseRelationUsername modelUuid relation)
    (uncreated : user.attributes.lookup "created_by_user" = none) :
    Leads (rules modelUuid) script (Present user) (onRelationBroken relation) (fun _ => Present user) := by
  have flag : Avoids Deletes DatabaseManager.getRemovingFlag := avoids_bind (avoids_ask id) fun _ => trivial
  refine leads_bind (present_frame flag) (fun removing => ?_) (fun _ _ there => there)
  split
  · exact present_frame trivial
  · refine leads_bind (present_frame (avoids_ask id)) (fun leader => ?_) (fun _ _ there => there)
    split
    · refine leads_bind (leads_relationUsername relation) (fun username => ?_) (fun _ _ known => known.1)
      intro s ⟨there,told⟩
      have named : user.name ≠ username := by rw [told username rfl]; exact other
      have deletes : Leads (rules modelUuid) script (Present user)
          ((DatabaseManager.deleteUsers username).tryExcept Exn.isRuntimeError (fun _ => pure ()))
          (fun _ => Present user) := by
        refine leads_handle (leads_deleteUsers named uncreated) (fun _ => present_frame trivial) (fun e => ?_)
        split <;> exact present_frame trivial
      exact deletes s there
    · exact present_frame trivial

end

/-- Two relations share no name, and no user is deleted with the relation of another one. -/
theorem relation_users_apart (modelUuid : String) {first second : Nat} (small : first < 10 ^ 16)
    (small' : second < 10 ^ 16) :
    (buildDatabaseRelationUsername modelUuid first = buildDatabaseRelationUsername modelUuid second →
      first = second) ∧
    (buildDatabaseRelationUsername modelUuid first).length ≤ 26 ∧
    (buildDatabaseRelationUsername modelUuid second).length ≤ 26 ∧
    (first ≠ second → ∀ (script : Script Call Reply Exn) (server : Server) (user : UserInfo),
      IsRelationUser modelUuid second user → user ∈ server.users →
        user ∈ (afterBroken modelUuid script first server).users) := by
  refine ⟨username_injective small small',username_length _ _,username_length _ _,?_⟩
  intro differ script server user ofRelation there
  have other : user.name ≠ buildDatabaseRelationUsername modelUuid first := by
    intro same
    exact differ (username_injective small small' (same.symm.trans ofRelation.name))
  exact leads_onRelationBroken other ofRelation.uncreated ⟨server,[]⟩ there

def modelId : String := "99200344-b67b-4e98-8a4c-9e6d8d7f1b2a"

/-- The user of a relation whose id begins with the digits of another one. -/
def longer : UserInfo := ⟨"relation-79_99200344b67b4e","%",[]⟩

/-- The users of both relations, one of them with a router. -/
def shared : Server where
  users := [⟨"relation-7_99200344b67b4e9","%",[]⟩,longer,
    ⟨"mysql_router1_gwa0oy6xnp8l","%",[("created_by_user","relation-7_99200344b67b4e9")]⟩]
  distinct := by decide

/-- The leader reaches the primary, and every call succeeds. -/
def smooth : Script Call Reply Exn where
  reply c _ := match c with
    | .unitData _ => .ok none
    | .isLeader => .ok true
    | .clusterSetStatus _ => .ok ⟨"cluster",[("cluster",⟨"OK",some "10.0.0.1:3306"⟩)]⟩
    | _ => .ok default
  takesEffect _ _ := true

example : (afterBroken modelId smooth 7 shared).users = [longer] := by decide +kernel

/-- The digits of one id go on where those of the other end. -/
theorem relation_users_apart_7_79 :
    buildDatabaseRelationUsername modelId 7 ≠ buildDatabaseRelationUsername modelId 79 ∧
      longer ∈ (afterBroken modelId smooth 7 shared).users := by
  obtain ⟨apart,-,-,stays⟩ := @relation_users_apart modelId 7 79 (by decide) (by decide)
  have differ : (7 : Nat) ≠ 79 := by decide
  exact ⟨fun same => differ (apart same),
    stays differ smooth shared longer ⟨by decide +kernel,rfl⟩ (by decide)⟩

end MysqlOperators.RelationUsers
