import MysqlOperators.Databases
import MysqlOperators.Quiet
import MysqlOperators.Scripted

/-!
The roles of the users that clients ask for. A client names roles in a text of its
own; the server takes each part of the text for one of its roles, or knows no such
role and refuses the user. What a hook grants is kept whatever it does afterwards.
-/
namespace MysqlOperators.RequestedRoles
open MysqlOperators.Program MysqlOperators.Program.Prog MysqlOperators.External MysqlOperators.Clients
open MysqlOperators.Workload MysqlOperators.Helpers MysqlOperators.Databases MysqlOperators.Scripted
open MysqlOperators.Quiet
open MysqlOperators.Lifecycle (rolenameRouter)
open MysqlOperators.DatabaseUsers (DatabaseName)

/-! ### The server -/

/-- The instance roles that a client may ask for, and the one of the routers. -/
def requestableRoles : List String :=
  ["charmed_stats","charmed_read","charmed_dml","charmed_ddl","charmed_dba",rolenameRouter]

/-- The users with the roles that they were granted. -/
abbrev Grants := List (String × String)

/-- The role that the server takes each text for. -/
abbrev Roles := String → Option String

def known (server : Roles) (roles : List String) : Bool := roles.all (fun role => (server role).isSome)

/-- A user with a role that the server does not know is refused. -/
def rules (server : Roles) : Rules Grants Call Reply Exn where
  answer _ c r :=
    match c,r with
    | .createUser _ _ _ roles, .ok _ =>
      if known server roles then .ok () else .error ⟨.executionError,"Unknown authorization ID"⟩
    | _, r => r
  effect w c r happened :=
    match c with
    | .createUser _ username _ roles =>
      if known server roles && (r.toBool || happened) then w ++ (roles.filterMap server).map (username,·) else w
    | _ => w

/-- A request for a database, with the text that names the roles. -/
structure Wish where
  relation : Nat
  database : DatabaseName
  extraUserRoles : Option String

def Wish.request (wish : Wish) : Request := ⟨wish.relation,some wish.database.name,wish.extraUserRoles⟩

/-- What the hook of a request grants. -/
def granted (server : Roles) (script : Script Call Reply Exn) (charm : Charm) (wish : Wish) : Grants :=
  (play (rules server) script (onDatabaseRequested charm wish.request) []).2.world

/-- However its calls end, the hook grants nothing but what may be asked for. -/
def Safe (server : Roles) (charm : Charm) (wish : Wish) : Prop :=
  ∀ script, ∀ grant ∈ granted server script charm wish, grant.2 ∈ requestableRoles

/-! ### What is granted at most -/

section
variable {server : Roles} {charm : Charm} {wish : Wish}

/-- The creation of a user with other roles than those of a request. -/
def Strays (roles : List String) (c : Call) : Prop :=
  ∃ at_ username password other, c = .createUser at_ username password other ∧ other ≠ roles

theorem stays {roles : List String} {c : Call} (other : ∀ at_ username password others,
    c ≠ .createUser at_ username password others) : ¬ Strays roles c := by
  rintro ⟨at_,username,password,others,same,-⟩
  exact other at_ username password others same

theorem strays_loud {roles : List String} {c : Call} (strays : Strays roles c) : Loud c := by
  obtain ⟨at_,username,password,others,rfl,-⟩ := strays
  rfl

variable {roles : List String}

theorem avoids_host : Avoids (Strays roles) DatabaseManager.primaryHost := by
  rw [DatabaseManager.primaryHost_eq]
  exact avoids_bind (avoids_ask (stays nofun)) fun _ => avoids_ofExcept _

theorem avoids_createDatabase (database : String) :
    Avoids (Strays roles) (DatabaseManager.createDatabase database) := by
  refine avoids_bind (avoids_bind (avoids_ask (stays nofun)) fun _ => trivial) fun _ => ?_
  refine avoids_ite _ (fun _ => trivial) fun _ => avoids_bind avoids_host fun _ => ?_
  refine avoids_bind (avoids_ask (stays nofun)) fun _ => avoids_bind ?_ fun _ => ?_
  · exact avoids_bind (avoids_ask (stays nofun)) fun _ => trivial
  · exact avoids_bind (avoids_ask (stays nofun)) fun _ => trivial

theorem avoids_createDatabaseUser (database username : String) (password : Option String) :
    Avoids (Strays roles) (DatabaseManager.createDatabaseUser database username password roles) := by
  refine avoids_bind ?_ fun _ => avoids_bind avoids_host fun _ => avoids_bind ?_ fun _ => trivial
  · split
    · trivial
    · exact avoids_ask (stays nofun)
  · refine avoids_bind (avoids_ask ?_) fun _ => avoids_ite _ (fun _ => ?_) (fun _ => trivial)
    · rintro ⟨_,_,_,_,same,other⟩
      cases same
      exact other rfl
    · exact avoids_bind (avoids_ask (stays nofun)) fun _ => trivial

/-- The database first, unless the user is one of a router. -/
theorem serve_eq (request : Request) (database : String) : serve request database =
    (if request.roles.contains rolenameRouter then pure () else setDatabase request.relation database) >>= fun _ =>
      setDatabaseUser request.relation database request.roles >>= fun _ => setDatabaseVersion request.relation := by
  unfold serve
  split <;> rfl

theorem avoids_serve (request : Request) (database : String) :
    Avoids (Strays request.roles) (serve request database) := by
  rw [serve_eq]
  refine avoids_bind ?_ fun _ => avoids_bind ?_ fun _ => ?_
  · refine avoids_ite _ (fun _ => trivial) fun _ => ?_
    exact avoids_bind (avoids_createDatabase database) fun _ => avoids_ask (stays nofun)
  · refine avoids_bind (avoids_bind (avoids_ask (stays nofun)) fun _ => trivial) fun _ => ?_
    refine avoids_bind (avoids_ask (stays nofun)) fun _ => ?_
    exact avoids_bind (avoids_createDatabaseUser _ _ _) fun _ => avoids_ask (stays nofun)
  · refine avoids_bind (avoids_bind (avoids_ask (stays nofun)) fun _ => trivial) fun _ => ?_
    exact avoids_ask (stays nofun)

/-- The hook creates its user with the roles of the request. -/
theorem avoids_onDatabaseRequested (charm : Charm) (request : Request) :
    Avoids (Strays request.roles) (onDatabaseRequested charm request) := by
  have quiet {α : Type} {p : Hook α} (avoids : Avoids Loud p) : Avoids (Strays request.roles) p :=
    avoids_mono (fun _ => strays_loud) avoids
  refine avoids_bind (quiet (quiet_initialized charm)) fun _ => avoids_ite _ (fun _ => ?_)
    (fun _ => avoids_ask (stays nofun))
  refine avoids_bind (avoids_ask (stays nofun)) fun _ => avoids_ite _ (fun _ => ?_) (fun _ => trivial)
  split
  · trivial
  · refine avoids_tryElse (avoids_serve request _) (fun _ => quiet (quiet_setUnitStatus _)) fun _ => ?_
    refine avoids_bind (quiet (quiet_setUnitStatus _)) fun _ => ?_
    refine avoids_bind (quiet (quiet_updateAppLabels charm)) fun _ => ?_
    exact quiet (quiet_updateRelationEndpoints charm _)

/-- Every grant comes from a part of the text. -/
theorem granted_source (server : Roles) (script : Script Call Reply Exn) (charm : Charm) (wish : Wish) :
    ∀ grant ∈ granted server script charm wish, known server wish.request.roles = true ∧
      ∃ part ∈ wish.request.roles, server part = some grant.2 := by
  refine run_frame (P := fun s : Scene Grants Call => ∀ grant ∈ s.world, known server wish.request.roles = true ∧
      ∃ part ∈ wish.request.roles, server part = some grant.2) ?_
    (avoids_onDatabaseRequested charm wish.request) ⟨[],[]⟩ nofun
  intro s c r happened other before grant member
  simp only [Scene.after,rules] at member
  split at member
  · rename_i at_ username password roles _
    have same : roles = wish.request.roles := by
      by_contra different
      exact other ⟨at_,username,password,roles,rfl,different⟩
    subst same
    split at member
    · rename_i takes
      rcases List.mem_append.mp member with old | new
      · exact before grant old
      · obtain ⟨role,listed,rfl⟩ := List.mem_map.mp new
        obtain ⟨part,inside,names⟩ := List.mem_filterMap.mp listed
        simp only [Bool.and_eq_true] at takes
        exact ⟨takes.1,part,inside,names⟩
    · exact before grant member
  · exact before grant member

/-! ### What is granted -/

/-- A server on which every call succeeds. -/
def willing : Script Call Reply Exn where
  reply c _ :=
    match c with
    | .snapPresent | .snapServiceActive | .canConnect | .isLeader => .ok true
    | .serviceRunning _ => .ok (some true)
    | .clusterLabels _ => .ok ["cluster"]
    | .appData _ => .ok (some "cluster")
    | .clusterSetStatus _ => .ok ⟨"cluster",[("cluster",⟨"OK",some "10.0.0.1:3306"⟩)]⟩
    | _ => .ok default
  takesEffect _ _ := false

/-- The program ends with a value on that server. -/
def Ends {α : Type} (server : Roles) (p : Hook α) : Prop :=
  ∀ s, ∃ a s', run (respond (rules server) willing) p s = (.ok a,s')

theorem ends_bind {α β : Type} {p : Hook α} {f : α → Hook β} (first : Ends server p) (rest : ∀ a, Ends server (f a)) :
    Ends server (p >>= f) := by
  intro s
  obtain ⟨a,s₁,ran⟩ := first s
  obtain ⟨b,s₂,ended⟩ := rest a s₁
  exact ⟨b,s₂,by rw [run_bind,ran]; exact ended⟩

theorem ends_pure {α : Type} (a : α) : Ends server (pure a) := fun s => ⟨a,s,rfl⟩

theorem ends_ask {c : Call} (free : ∀ at_ username password others, c ≠ .createUser at_ username password others) :
    Ends server (ask c) := by
  intro s
  have answered : ∃ a, (respond (rules server) willing s c).1 = .ok a := by
    cases c <;> first | exact ⟨_,rfl⟩ | exact absurd rfl (free _ _ _ _)
  obtain ⟨a,same⟩ := answered
  exact ⟨a,(respond (rules server) willing s c).2,by rw [run_perform,← same]⟩

theorem ends_host : Ends server DatabaseManager.primaryHost := by
  intro s
  have primary : DatabaseManager.primaryIn ⟨"cluster",[("cluster",⟨"OK",some "10.0.0.1:3306"⟩)]⟩ = .ok "10.0.0.1" := by
    decide +kernel
  refine ⟨"10.0.0.1",⟨s.world,s.log ++ [.clusterSetStatus .own]⟩,?_⟩
  rw [DatabaseManager.primaryHost_eq,run_bind,run_perform]
  simp only [Scripted.respond,rules,willing,run_ofExcept,primary]

/-- A grant lasts. -/
theorem grant_lasts {α : Type} {script : Script Call Reply Exn} {grant : String × String} (p : Hook α)
    (s : Scene Grants Call) (member : grant ∈ s.world) :
    grant ∈ (run (respond (rules server) script) p s).2.world := by
  refine run_frame (P := fun s : Scene Grants Call => grant ∈ s.world) ?_ (avoids_of_never p) s member
  intro s c r happened _ before
  simp only [Scene.after,rules]
  split
  · split
    · exact List.mem_append_left _ before
    · exact before
  · exact before

theorem ends_createDatabase (database : String) : Ends server (DatabaseManager.createDatabase database) := by
  refine ends_bind (ends_bind (ends_ask nofun) fun _ => ends_pure _) fun databases => ?_
  split
  · exact ends_pure ()
  · refine ends_bind ends_host fun _ => ends_bind (ends_ask nofun) fun _ => ends_bind ?_ fun _ => ?_
    · exact ends_bind (ends_ask nofun) fun _ => ends_pure _
    · exact ends_bind (ends_ask nofun) fun _ => ends_pure _

/-- The run goes on with a program that grants something. -/
theorem grant_bind {α β : Type} {p : Hook α} {f : α → Hook β} {grant : String × String} (first : Ends server p)
    (rest : ∀ a s, grant ∈ (run (respond (rules server) willing) (f a) s).2.world) (s : Scene Grants Call) :
    grant ∈ (run (respond (rules server) willing) (p >>= f) s).2.world := by
  obtain ⟨a,s₁,ran⟩ := first s
  rw [run_bind,ran]
  exact rest a s₁

/-- What the first part of a program grants is kept by the rest. -/
theorem grant_handle {α β : Type} {p : Hook α} {f : α → Hook β} {g : Exn → Hook β} {grant : String × String}
    {s : Scene Grants Call} (member : grant ∈ (run (respond (rules server) willing) p s).2.world) :
    grant ∈ (run (respond (rules server) willing) (p.handle f g) s).2.world := by
  rw [run_handle]
  rcases ran : run (respond (rules server) willing) p s with ⟨e | a,s₁⟩ <;> rw [ran] at member
  · exact grant_lasts _ _ member
  · exact grant_lasts _ _ member

variable {roles : List String} {part role : String}

/-- A user that the server creates has the roles that the parts name. -/
theorem grant_createUser (knows : known server roles = true) (inside : part ∈ roles) (names : server part = some role)
    (database username password : String) (at_ : Target) (s : Scene Grants Call) :
    (username,role) ∈ (run (respond (rules server) willing)
      (Clients.InstanceClient.createDatabaseUser at_ database username password roles) s).2.world := by
  refine grant_handle ?_
  rw [run_perform]
  simp only [Scripted.respond,rules,willing,knows,Except.toBool,if_true,Bool.true_or,Bool.and_self]
  exact List.mem_append_right _ (List.mem_map.mpr ⟨role,List.mem_filterMap.mpr ⟨part,inside,names⟩,rfl⟩)

theorem grant_serve (request : Request) (knows : known server request.roles = true) (inside : part ∈ request.roles)
    (names : server part = some role) (database : String) (s : Scene Grants Call) : ∃ username,
      (username,role) ∈ (run (respond (rules server) willing) (serve request database) s).2.world := by
  refine ⟨DatabaseUsers.buildDatabaseRelationUsername "" request.relation,?_⟩
  rw [serve_eq]
  refine grant_bind ?_ (fun _ s => grant_handle ?_) s
  · split
    · exact ends_pure ()
    · refine ends_bind (ends_createDatabase database) fun _ => ?_
      exact ends_ask nofun
  · rw [setDatabaseUser,run_bind]
    have named : run (respond (rules server) willing) (relationUsername request.relation) s =
        (.ok (DatabaseUsers.buildDatabaseRelationUsername "" request.relation),⟨s.world,s.log ++ [.modelUuid]⟩) := rfl
    rw [named]
    have field : Ends server (ask (.relationField request.relation "password")) := ends_ask nofun
    refine grant_bind field (fun password s => grant_handle ?_) _
    refine grant_bind ?_ (fun _ s => grant_bind ends_host (fun _ s => grant_handle ?_) s) s
    · split
      · exact ends_pure _
      · exact ends_ask nofun
    · exact grant_createUser knows inside names _ _ _ _ _

theorem grant_hook (charm : Charm) (wish : Wish) (knows : known server wish.request.roles = true)
    (inside : part ∈ wish.request.roles) (names : server part = some role) :
    ∃ username, (username,role) ∈ granted server willing charm wish := by
  have named : nonEmpty wish.request.database = some wish.database.name := by
    have nonempty := wish.database.nonempty
    unfold nonEmpty
    split
    · rename_i empty
      rw [Option.some.inj empty] at nonempty
      exact absurd rfl nonempty
    · rfl
  have ready (s : Scene Grants Call) :
      ∃ s', run (respond (rules server) willing) (initialized charm) s = (.ok true,s') := by
    cases substrate : charm.substrate <;> exact ⟨_,by rw [initialized,substrate]; rfl⟩
  obtain ⟨s₁,started⟩ := ready ⟨[],[]⟩
  have leads : run (respond (rules server) willing) isLeader s₁ = (.ok true,⟨s₁.world,s₁.log ++ [.isLeader]⟩) := rfl
  obtain ⟨username,member⟩ := grant_serve wish.request knows inside names wish.database.name
    ⟨s₁.world,s₁.log ++ [.isLeader]⟩
  refine ⟨username,?_⟩
  rw [granted,play,onDatabaseRequested,run_bind,started]
  simp only [if_true,run_bind,leads,named]
  exact grant_handle member

end

/-- The hook is safe if and only if the server knows no role for some part of the
    text, or takes every part for a role that may be asked for. -/
theorem safe_iff (server : Roles) (charm : Charm) (wish : Wish) : Safe server charm wish ↔
    (∃ part ∈ wish.request.roles, server part = none) ∨
      ∀ part ∈ wish.request.roles, ∃ role ∈ requestableRoles, server part = some role := by
  constructor
  · intro safe
    by_cases unknown : ∃ part ∈ wish.request.roles, server part = none
    · exact .inl unknown
    · have knows : known server wish.request.roles = true := by
        refine List.all_eq_true.mpr fun part inside => ?_
        by_contra missing
        exact unknown ⟨part,inside,by simpa using missing⟩
      refine .inr fun part inside => ?_
      obtain ⟨role,names⟩ := Option.isSome_iff_exists.mp (List.all_eq_true.mp knows part inside)
      obtain ⟨username,member⟩ := grant_hook charm wish knows inside names
      exact ⟨role,safe willing _ member,names⟩
  · rintro (⟨part,inside,unknown⟩ | requestable) script grant member
    · obtain ⟨knows,-⟩ := granted_source server script charm wish grant member
      have found := List.all_eq_true.mp knows part inside
      rw [unknown] at found
      cases found
    · obtain ⟨-,part,inside,names⟩ := granted_source server script charm wish grant member
      obtain ⟨role,listed,same⟩ := requestable part inside
      rw [names] at same
      rwa [Option.some.inj same]

/-! ### A role that is handed out -/

/-- A server with the roles of the charm and those of two databases. -/
def charmed : Roles := fun text =>
  if text ∈ requestableRoles ++ ["charmed_backup","charmed_dba_app_00","charmed_dba_billing_00"] then some text
  else none

/-- A client asks for the role of the backups next to one that it may have. -/
def backupWish : Wish := ⟨7,⟨"app",by decide⟩,some "charmed_read,charmed_backup"⟩

theorem backup_granted : ¬ Safe charmed ⟨.vm,"mysql",0,"cluster","10.0.0.1"⟩ backupWish := by
  intro safe
  have inside : ("relation-7_","charmed_backup") ∈
      granted charmed willing ⟨.vm,"mysql",0,"cluster","10.0.0.1"⟩ backupWish := by decide +kernel
  have listed := safe willing _ inside
  revert listed
  decide

end MysqlOperators.RequestedRoles
