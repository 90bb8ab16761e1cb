import MysqlOperators.Lifecycle
import MysqlOperators.Passwords
import MysqlOperators.Quiet

/-!
The leader of the application and what only it may write: each unit keeps a flag in
its databag of whether it leads, set by the hooks with which Juju tells it of
elections, and the leader keeps the passwords of the application in a secret. A run
is any sequence of elections, hooks and actions, of units that come and go, and a
hook that raises leaves nothing behind.
-/
namespace MysqlOperators.Leadership
open MysqlOperators.Program MysqlOperators.Program.Prog MysqlOperators.External MysqlOperators.Clients
open MysqlOperators.Workload MysqlOperators.Helpers MysqlOperators.Cluster MysqlOperators.Lifecycle
open MysqlOperators.Quiet MysqlOperators.Scripted
open Function (update update_self update_of_ne)
set_option linter.unusedSimpArgs false

/-! ### The handlers -/

/-- `_on_leader_changed`. -/
def onLeaderChanged : Hook Unit := LifecycleManager.setLeaderFlag false

/-- `_on_get_password`, with the results that it sets. -/
def onGetPassword (charm : Charm) (username : String) : Hook (Option (List (String × String))) :=
  match usernameToPasswordKey.lookup username with
  | none => do
    ask (.fail ("The action cannot be run for user " ++ username))
    pure none
  | some key =>
    (SecretStore.getValue (secretLabel charm) key).tryElse Exn.isValueError
      (fun e => do
        ask (.fail ("Failed to fetch password for user " ++ username ++ ": " ++ e.text))
        pure none)
      (fun password => pure (some [("username",username),("password",password)]))

/-! ### Passwords -/

def systemPasswordLen : Nat := 24

/-- `string.ascii_letters + string.digits`. -/
def choices : List Char := "abcdefghijklmnopqrstuvwxyzABCDEFGHIJKLMNOPQRSTUVWXYZ0123456789".toList

/-- The test that ends the loop of `create_password`. -/
def mixed (password : String) : Bool :=
  password.toList.any Char.isLower && password.toList.any Char.isUpper && password.toList.any Char.isDigit

/-- What one pass of the loop can draw. -/
structure Candidate (password : String) : Prop where
  length : password.length = systemPasswordLen
  letters : ∀ c ∈ password.toList, c ∈ choices

/-- `create_password` on the candidates that its loop draws. -/
def createPassword (candidates : List String) : Option String := candidates.find? mixed

def Drawn (password : String) : Prop :=
  ∃ candidates, (∀ candidate ∈ candidates, Candidate candidate) ∧ createPassword candidates = some password

theorem drawn_iff (password : String) : Drawn password ↔ Candidate password ∧ mixed password = true := by
  constructor
  · rintro ⟨candidates,drawn,found⟩
    exact ⟨drawn password (List.mem_of_find?_eq_some found),List.find?_some found⟩
  · rintro ⟨candidate,passes⟩
    refine ⟨[password],List.forall_mem_singleton.mpr candidate,?_⟩
    rw [createPassword,List.find?_cons_of_pos passes]

theorem drawn_nonempty {password : String} (drawn : Drawn password) : password ≠ "" := by
  rintro rfl
  have := ((drawn_iff "").mp drawn).1.length
  simp [systemPasswordLen] at this

def passwordKeys : List String := usernameToPasswordKey.map Prod.snd

/-- A secret with every password once, and none of them empty. -/
structure Complete (content : Databag) : Prop where
  keys : content.map Prod.fst = passwordKeys
  nonempty : ∀ entry ∈ content, entry.2 ≠ ""

/-! ### One hook -/

/-- What a hook sees and writes: whether its unit leads, the secrets by their labels,
    the flag of the unit, and whether it has called `event.fail`. -/
structure Session where
  leader : Bool
  secrets : String → Option Databag
  flag : Option String
  failed : Bool

namespace Session

def denied : Exn := ⟨.modelError,"permission denied"⟩

/-- Juju finds a secret exactly if it is there, adds no second one with its label, and
    lets the leader alone write for the application. -/
def answer (w : Session) : (c : Call) → Except Exn (Reply c) → Except Exn (Reply c)
  | .isLeader, .ok _ => .ok w.leader
  | .getSecret label, .ok _ =>
    if (w.secrets label).isSome then .ok () else .error ⟨.secretNotFoundError,"secret not found"⟩
  | .getSecret label, .error e => if e.isSecretNotFound && (w.secrets label).isSome then .ok () else .error e
  | .peekContent label, .ok _ => .ok ((w.secrets label).getD [])
  | .addSecret label _, .ok _ => if w.leader && (w.secrets label).isNone then .ok () else .error denied
  | .setContent _ _, .ok _ => if w.leader then .ok () else .error denied
  | .setAppData _ _, .ok _ => if w.leader then .ok () else .error denied
  | _, r => r

/-- A call that raises has written nothing. -/
def effect (w : Session) : (c : Call) → Except Exn (Reply c) → Bool → Session
  | .addSecret label content, .ok _, _ => { w with secrets := update w.secrets label (some content) }
  | .setContent label content, .ok _, _ => { w with secrets := update w.secrets label (some content) }
  | .setUnitData key value, .ok _, _ => if key = "leader" then { w with flag := some value } else w
  | .fail _, _, _ => { w with failed := true }
  | _, _, _ => w

end Session

def rules : Rules Session Call Reply Exn := ⟨Session.answer,Session.effect⟩

/-- A script in which the passwords that are drawn are such as `create_password` returns. -/
structure Outcome where
  script : Script Call Reply Exn
  drawn : ∀ n password, script.reply .randomPassword n = .ok password → Drawn password

/-! ### Runs -/

/-- What Juju tells a unit after an election. -/
inductive Notice where
  | leaderElected
  | leaderSettingsChanged
deriving DecidableEq, Repr

/-- The units, the leader, the notices that each unit has not handled yet, the flags in
    the databags, the secrets of the application, and the passwords by their keys that
    set-password has stored last. -/
structure World where
  members : List UnitId
  leader : Option UnitId
  notices : UnitId → List Notice
  flag : UnitId → Option String
  secrets : String → Option Databag
  given : String → Option String

inductive Event where
  | join (u : UnitId)
  | depart (u : UnitId)
  | elect (u : UnitId)
  /-- Juju drops what it has told a unit before, but for the last notice. -/
  | supersede (u : UnitId)
  | handle (u : UnitId) (o : Outcome)
  | setPassword (u : UnitId) (username password : String) (o : Outcome)

namespace World

def session (w : World) (u : UnitId) : Session := ⟨decide (w.leader = some u),w.secrets,w.flag u,false⟩

def told (w : World) (u v : UnitId) : List Notice :=
  if v = u then w.notices v ++ [.leaderElected]
  else if v ∈ w.members then w.notices v ++ [.leaderSettingsChanged]
  else w.notices v

end World

def lastNotice (notices : List Notice) : List Notice := notices.getLast?.toList

def handler (charm : Charm) : Notice → Hook Unit
  | .leaderElected => onLeaderElected charm
  | .leaderSettingsChanged => onLeaderChanged

/-- The password that an action has stored. -/
def stored (username password : String) (o : Outcome) (given : String → Option String) : String → Option String :=
  match usernameToPasswordKey.lookup username, Passwords.chosen password o.script with
  | some key, some password => update given key (some password)
  | _, _ => given

/-- The units share the label of their application's secret. -/
structure Application where
  charm : UnitId → Charm
  label : String
  labelled : ∀ u, secretLabel (charm u) = label

section
variable (app : Application)

def step (w : World) : Event → World
  | .join u =>
    if u ∈ w.members then w
    else { w with members := u :: w.members, notices := update w.notices u [], flag := update w.flag u none }
  | .depart u =>
    { w with
      members := w.members.filter (· ≠ u)
      leader := if w.leader = some u then none else w.leader }
  | .elect u => if u ∈ w.members then { w with leader := some u, notices := w.told u } else w
  | .supersede u => { w with notices := update w.notices u (lastNotice (w.notices u)) }
  | .handle u o =>
    match w.notices u with
    | [] => w
    | notice :: rest =>
      match play rules o.script (handler (app.charm u) notice) (w.session u) with
      | (.error _,_) => w
      | (.ok _,s) =>
        { w with notices := update w.notices u rest, flag := update w.flag u s.world.flag, secrets := s.world.secrets }
  | .setPassword u username password o =>
    if u ∈ w.members then
      match play rules o.script (onSetPassword (app.charm u) username password) (w.session u) with
      | (.error _,_) => w
      | (.ok _,s) =>
        { w with
          secrets := s.world.secrets
          given := if s.world.failed then w.given else stored username password o w.given }
    else w

def run (w : World) (events : List Event) : World := events.foldl (step app) w

end

def fresh : World := ⟨[],none,fun _ => [],fun _ => none,fun _ => none,fun _ => none⟩

/-! ### What one hook does -/

section
variable {charm : Charm} {o : Outcome}

/-- Calls that change what a hook writes. -/
def writes : Call → Bool
  | .addSecret _ _ | .setContent _ _ | .setUnitData _ _ | .fail _ => true
  | _ => false

theorem effect_plain {c : Call} (plain : ¬ writes c = true) (w : Session) (r : Except Exn (Reply c)) (happened : Bool) :
    w.effect c r happened = w := by
  unfold Session.effect
  split <;> first | rfl | exact absurd rfl plain

theorem leads_plain {α : Type} {p : Hook α} (plain : Avoids (fun c => writes c = true) p) (v : Session) :
    Leads rules o.script (fun s => s.world = v) p (fun _ s => s.world = v) := by
  refine leads_frame (fun s c r happened other same => ?_) plain
  show s.world.effect c r happened = v
  rw [effect_plain other,same]

theorem leads_getContent (label : String) (v : Session) :
    Leads rules o.script (fun s => s.world = v) (SecretStore.getContent label)
      (fun r s => s.world = v ∧ ∀ content, r = .ok content → v.secrets label = some content) := by
  refine leads_bind (Q := fun r s => s.world = v ∧ (r = .ok () → (v.secrets label).isSome = true)) ?_ (fun _ => ?_)
    (fun e s known => ⟨known.1,nofun⟩)
  · refine leads_handle (Q := fun r s => s.world = v ∧ (r = .ok () → (v.secrets label).isSome = true))
      (leads_perform fun s n r happened same answered => ?_) (fun _ => leads_ret fun s known => known) (fun e => ?_)
    · subst same
      refine ⟨rfl,fun found => ?_⟩
      rw [found] at answered
      cases raw : o.script.reply (.getSecret label) n with
      | ok _ =>
        rw [raw] at answered
        by_contra absent
        simp [rules,Session.answer,absent] at answered
      | error e =>
        rw [raw] at answered
        by_contra absent
        simp [rules,Session.answer,absent] at answered
    · by_cases missing : e.isSecretNotFound = true
      · simp only [missing,if_true]
        exact leads_raise fun s known => ⟨known.1,nofun⟩
      · simp only [missing]
        exact leads_raise fun s known => ⟨known.1,nofun⟩
  · refine leads_perform fun s n r happened known answered => ⟨?_,fun content read => ?_⟩
    · exact known.1
    · have found := known.2 rfl
      rw [read] at answered
      cases raw : o.script.reply (.peekContent label) n with
      | ok _ =>
        rw [raw,known.1] at answered
        obtain ⟨held,present⟩ := Option.isSome_iff_exists.mp found
        simp only [rules,Session.answer,present,Option.getD_some,Except.ok.injEq] at answered
        rw [present,answered]
      | error e =>
        rw [raw] at answered
        cases answered

/-- Without an error the passwords are those of the secret, and there are none if it
    cannot be read. -/
theorem leads_fetchPasswords (v : Session) :
    Leads rules o.script (fun s => s.world = v) (fetchPasswords charm)
      (fun r s => s.world = v ∧
        ∀ content, r = .ok content → content = [] ∨ v.secrets (secretLabel charm) = some content) := by
  refine leads_handle (leads_getContent _ v) (fun content => leads_ret fun s known => ?_) (fun e => ?_)
  · exact ⟨known.1,fun read same => .inr (by cases same; exact known.2 content rfl)⟩
  · by_cases caught : e.isValueError = true
    · simp only [caught,if_true]
      exact leads_ret fun s known => ⟨known.1,fun read same => .inl (by cases same; rfl)⟩
    · simp only [caught]
      exact leads_raise fun s known => ⟨known.1,nofun⟩

theorem leads_newPasswords (keys : List String) (v : Session) :
    Leads rules o.script (fun s => s.world = v) (newPasswords keys)
      (fun r s => s.world = v ∧ ∀ content, r = .ok content →
        content.map Prod.fst = keys ∧ ∀ entry ∈ content, Drawn entry.2) := by
  induction keys with
  | nil => exact leads_ret fun s same => ⟨same,fun content read => by cases read; exact ⟨rfl,nofun⟩⟩
  | cons key keys ih =>
    refine leads_bind (Q := fun r s => s.world = v ∧ ∀ password, r = .ok password → Drawn password)
      (leads_perform fun s n r happened same answered => ⟨same,fun password read => ?_⟩) (fun password => ?_)
      (fun _ _ known => ⟨known.1,nofun⟩)
    · exact o.drawn n password (by rw [read] at answered; exact answered.symm)
    · refine leads_bind (Q := fun r s => (s.world = v ∧ ∀ content, r = .ok content →
        content.map Prod.fst = keys ∧ ∀ entry ∈ content, Drawn entry.2) ∧ Drawn password) ?_ (fun content => ?_)
        (fun _ _ known => ⟨known.1.1,nofun⟩)
      · exact fun s known => ⟨ih s known.1,known.2 password rfl⟩
      · refine leads_ret fun s known => ⟨known.1.1,fun all same => ?_⟩
        cases same
        obtain ⟨listed,drawn⟩ := known.1.2 content rfl
        exact ⟨by rw [List.map_cons,listed],List.forall_mem_cons.mpr ⟨known.2,drawn⟩⟩

/-- Passwords are created where there are none, and all of them at once. -/
theorem leads_createPasswords (v : Session) :
    Leads rules o.script (fun s => s.world = v) (createPasswords charm)
      (fun r s => r = .ok () → v.secrets (secretLabel charm) = none ∧ ∃ content,
        content.map Prod.fst = passwordKeys ∧ (∀ entry ∈ content, Drawn entry.2) ∧
        s.world = { v with secrets := update v.secrets (secretLabel charm) (some content) }) := by
  refine leads_bind (leads_newPasswords _ v) (fun content => ?_) (fun _ _ _ => nofun)
  refine leads_perform fun s n r happened known answered done => ?_
  obtain ⟨listed,drawn⟩ := known.2 content rfl
  rw [done] at answered
  cases raw : o.script.reply (.addSecret (secretLabel charm) content) n with
  | error e =>
    rw [raw] at answered
    cases answered
  | ok _ =>
    rw [raw,known.1] at answered
    by_cases free : (v.leader && (v.secrets (secretLabel charm)).isNone) = true
    · refine ⟨by simpa using (Bool.and_eq_true_iff.mp free).2,content,listed,drawn,?_⟩
      rw [done]
      show Session.effect s.world (.addSecret (secretLabel charm) content) (.ok ()) happened = _
      rw [known.1]
      rfl
    · simp [rules,Session.answer,free] at answered

/-! ### The hooks of leadership -/

/-- Passwords that are there are kept, and those that were not there have been drawn. -/
structure Secured (label : String) (v w : Session) : Prop where
  kept : ∀ content, v.secrets label = some content → content ≠ [] → w.secrets label = some content
  drawn : ∀ content, w.secrets label = some content → v.secrets label = some content ∨
    content.map Prod.fst = passwordKeys ∧ ∀ entry ∈ content, Drawn entry.2

theorem secured_same {label : String} {v w : Session} (same : w.secrets = v.secrets) : Secured label v w := by
  refine ⟨fun _ held _ => ?_,fun _ held => .inl ?_⟩
  · rw [same]
    exact held
  · rw [← same]
    exact held

theorem plain_setName (key namePrefix : String) (name : Option String) :
    Avoids (fun c => writes c = true) (LifecycleManager.setName key namePrefix name) := by
  refine avoids_bind ?_ fun stored => ?_
  · cases nonEmpty name with
    | some name => exact avoids_ret _
    | none => exact avoids_bind (avoids_ask nofun) (fun _ => avoids_ret _)
  · cases stored with
    | some name => exact avoids_ask nofun
    | none => exact avoids_bind (avoids_ask nofun) (fun _ => avoids_ask nofun)

theorem plain_names : Avoids (fun c => writes c = true)
    (do let name ← ask (.configValue "cluster_name")
        LifecycleManager.setClusterName name
        let setName ← ask (.configValue "cluster_set_name")
        LifecycleManager.setClusterSetName setName : Hook Unit) :=
  avoids_bind (avoids_ask nofun) fun _ => avoids_bind (plain_setName _ _ _) fun _ =>
    avoids_bind (avoids_ask nofun) fun _ => plain_setName _ _ _

theorem leads_setLeaderFlag (flag : Bool) (v : Session) :
    Leads rules o.script (fun s => s.world = v) (LifecycleManager.setLeaderFlag flag)
      (fun r s => r = .ok () → s.world = { v with flag := some (if flag then "true" else "false") }) := by
  refine leads_perform fun s n r happened same answered done => ?_
  subst same
  rw [done]
  rfl

theorem leads_ensurePasswords (v : Session) :
    Leads rules o.script (fun s => s.world = v)
      (do let passwords ← fetchPasswords charm
          if passwords.isEmpty then createPasswords charm else pure () : Hook Unit)
      (fun r s => r = .ok () →
        (s.world.secrets (secretLabel charm)).isSome = true ∧ Secured (secretLabel charm) v s.world) := by
  refine leads_bind (leads_fetchPasswords v) (fun passwords => ?_) (fun _ _ _ => nofun)
  by_cases empty : passwords.isEmpty = true
  · rw [if_pos empty]
    intro s known done
    obtain ⟨absent,content,listed,drawn,after⟩ := leads_createPasswords v s known.1 done
    have now : (Program.run (respond rules o.script) (createPasswords charm) s).2.world.secrets (secretLabel charm) =
        some content := by
      rw [after]
      exact update_self ..
    refine ⟨by rw [now]; rfl,fun held present _ => ?_,fun held present => .inr ?_⟩
    · rw [absent] at present
      cases present
    · rw [now] at present
      cases present
      exact ⟨listed,drawn⟩
  · rw [if_neg empty]
    refine leads_ret fun s known _ => ?_
    have present : v.secrets (secretLabel charm) = some passwords := by
      rcases known.2 passwords rfl with none | some
      · rw [none] at empty
        exact absurd rfl empty
      · exact some
    rw [known.1]
    exact ⟨by rw [present]; rfl,secured_same rfl⟩

theorem leads_onLeaderElected (v : Session) :
    Leads rules o.script (fun s => s.world = v) (onLeaderElected charm)
      (fun r s => r = .ok () → s.world.flag = some "true" ∧
        (s.world.secrets (secretLabel charm)).isSome = true ∧ Secured (secretLabel charm) v s.world) := by
  have ordered : onLeaderElected charm = (do
      (do let passwords ← fetchPasswords charm
          if passwords.isEmpty then createPasswords charm else pure () : Hook Unit)
      LifecycleManager.setLeaderFlag true
      let name ← ask (.configValue "cluster_name")
      LifecycleManager.setClusterName name
      let setName ← ask (.configValue "cluster_set_name")
      LifecycleManager.setClusterSetName setName : Hook Unit) := by
    rw [onLeaderElected,bind_assoc]
    exact bind_congr fun passwords => by cases passwords <;> rfl
  rw [ordered]
  refine leads_bind (leads_ensurePasswords v) (fun _ => ?_) (fun _ _ _ => nofun)
  refine leads_bind (Q := fun r s => r = .ok () → s.world.flag = some "true" ∧
      (s.world.secrets (secretLabel charm)).isSome = true ∧ Secured (secretLabel charm) v s.world)
    (fun s secured done => ?_) (fun _ s led => ?_) (fun _ _ _ => nofun)
  · have after := leads_setLeaderFlag true s.world s rfl done
    obtain ⟨there,secured⟩ := secured rfl
    rw [after]
    exact ⟨rfl,there,secured.kept,secured.drawn⟩
  · have same := leads_plain (o := o) plain_names s.world s rfl
    rw [same]
    exact fun _ => led rfl

/-! ### The actions on passwords -/

/-- The first password that an action draws. -/
theorem leads_draw (v : Session) :
    Leads rules o.script (fun s => s.world = v ∧ s.log.count .randomPassword = 0) ClusterManager.createSystemPassword
      (fun r s => s.world = v ∧ ∀ password, r = .ok password → o.script.reply .randomPassword 0 = .ok password) := by
  rintro s ⟨same,first⟩
  refine ⟨leads_plain (p := ask .randomPassword) (avoids_ask nofun) v s same,fun password read => ?_⟩
  have read : (respond rules o.script s .randomPassword).1 = .ok password := by
    rw [← run_perform (respond rules o.script)]
    exact read
  rw [respond,first] at read
  exact read

theorem leads_setContent (label : String) (content : Databag) (v : Session) :
    Leads rules o.script (fun s => s.world = v) (ask (.setContent label content))
      (fun r s => s.world = if r = .ok () then { v with secrets := update v.secrets label (some content) } else v) := by
  refine leads_perform fun s n r happened same _ => ?_
  subst same
  cases r with
  | ok _ => rfl
  | error e => rfl

theorem leads_updatePassword (key value : String) (v : Session) :
    Leads rules o.script (fun s => s.world = v) (updatePassword charm key value)
      (fun r s => (∀ e, r = .error e → s.world = v) ∧ (r = .ok () → ∃ content,
        v.secrets (secretLabel charm) = some content ∧
        s.world = { v with secrets := update v.secrets (secretLabel charm) (some (updated content key value)) })) := by
  refine leads_bind (leads_getContent _ v) (fun content => ?_) (fun _ _ known => ⟨fun _ _ => known.1,nofun⟩)
  have unread : Avoids (fun c => writes c = true) (SecretStore.getSecret (secretLabel charm)) :=
    avoids_tryExcept (avoids_ask nofun) (fun _ => trivial)
  refine leads_bind (Q := fun _ s => s.world = v ∧ v.secrets (secretLabel charm) = some content)
    (fun s known => ⟨leads_plain unread v s known.1,known.2 content rfl⟩) (fun _ s known => ?_)
    (fun _ _ known => ⟨fun _ _ => known.1,nofun⟩)
  have after := leads_setContent (o := o) (secretLabel charm) (updated content key value) v s known.1
  refine ⟨fun e raised => ?_,fun done => ⟨content,known.2,?_⟩⟩
  · rw [after,if_neg (by rw [raised]; exact nofun)]
  · rw [after,if_pos done]

theorem plain_updateClusterUser (username password : String) :
    Avoids (fun c => writes c = true) (ClusterManager.updateClusterUser username password) := by
  refine avoids_bind (avoids_bind (avoids_ask nofun) fun _ => avoids_ofExcept _) fun host => ?_
  cases host with
  | none => trivial
  | some host =>
    exact avoids_ite _ (fun _ => trivial) fun _ => avoids_ite _ (fun _ => trivial) fun _ => avoids_ask nofun

theorem plain_exporter (s : Substrate) (username password : String) : Avoids (fun c => writes c = true)
    (do ExporterService.setup s username password
        ExporterService.stop s
        ExporterService.start s : Hook Unit) := by
  cases s with
  | vm =>
    refine avoids_bind (avoids_bind (avoids_ask nofun) fun _ => ?_) fun _ =>
      avoids_bind (avoids_bind (avoids_ask nofun) fun _ => ?_) fun _ => avoids_bind (avoids_ask nofun) fun _ => ?_
    · exact avoids_ite _ (fun _ => avoids_ask nofun) (fun _ => trivial)
    · exact avoids_ite _ (fun _ => avoids_ask nofun) (fun _ => trivial)
    · exact avoids_ite _ (fun _ => avoids_bind (avoids_ask nofun) (fun _ => avoids_ask nofun)) (fun _ => trivial)
  | k8s =>
    exact avoids_bind (avoids_ask nofun) fun _ =>
      avoids_bind (avoids_bind (avoids_ask nofun) fun _ => avoids_bind (avoids_ask nofun) fun _ => avoids_ask nofun)
        fun _ => avoids_bind (avoids_ask nofun) fun _ => avoids_bind (avoids_ask nofun) fun _ =>
          avoids_bind (avoids_ask nofun) fun _ => avoids_ask nofun

/-- An action that ends has failed, or has stored the password it chose in the secret. -/
inductive Acted (label username given : String) (o : Outcome) (v w : Session) : Prop where
  | failed (same : w = { v with failed := true })
  | stored (key password : String) (content : Databag) (known : usernameToPasswordKey.lookup username = some key)
      (chosen : Passwords.chosen given o.script = some password) (held : v.secrets label = some content)
      (after : w = { v with secrets := update v.secrets label (some (updated content key password)) })

theorem leads_fail {label username given : String} (message : String) (v : Session) :
    Leads rules o.script (fun s => s.world = v) (ask (.fail message))
      (fun _ s => Acted label username given o v s.world) :=
  leads_perform fun s n r happened same _ => .failed (by subst same; cases r <;> rfl)

theorem acts_store {username key : String} (known : usernameToPasswordKey.lookup username = some key)
    (given password : String) (v : Session) :
    Leads rules o.script (fun s => s.world = v ∧ Passwords.chosen given o.script = some password)
      ((do ClusterManager.updateClusterUser username password
           updatePassword charm key password : Hook Unit).tryElse (fun e => e.isRuntimeError || e.isValueError)
        (fun e => ask (.fail ("Failed to update password for user " ++ username ++ ": " ++ e.text)))
        fun _ => do
          if username = usernameMonitor then do
            ExporterService.setup charm.substrate username password
            ExporterService.stop charm.substrate
            ExporterService.start charm.substrate
          else pure ())
      (fun r s => r = .ok () → Acted (secretLabel charm) username given o v s.world) := by
  refine leads_handle (Q := fun r s => (∀ e, r = .error e → s.world = v) ∧
    (r = .ok () → Acted (secretLabel charm) username given o v s.world)) ?_ (fun _ s acted _ => ?_) (fun e => ?_)
  · refine leads_bind (Q := fun _ s => s.world = v ∧ Passwords.chosen given o.script = some password)
      (fun s start => ⟨leads_plain (plain_updateClusterUser _ _) v s start.1,start.2⟩) (fun _ s start => ?_)
      (fun _ _ start => ⟨fun _ _ => start.1,nofun⟩)
    obtain ⟨kept,written⟩ := @leads_updatePassword charm o key password v s start.1
    refine ⟨kept,fun done => ?_⟩
    obtain ⟨content,held,after⟩ := written done
    exact .stored key password content known start.2 held after
  · have plain : Avoids (fun c => writes c = true) (if username = usernameMonitor then do
          ExporterService.setup charm.substrate username password
          ExporterService.stop charm.substrate
          ExporterService.start charm.substrate
        else pure () : Hook Unit) :=
      avoids_ite _ (fun _ => plain_exporter _ _ _) (fun _ => trivial)
    have same := leads_plain (o := o) plain s.world s rfl
    rw [same]
    exact acted.2 rfl
  · by_cases caught : (e.isRuntimeError || e.isValueError) = true
    · rw [if_pos caught]
      exact fun s kept _ => leads_fail _ v s (kept.1 e rfl)
    · rw [if_neg caught]
      exact leads_raise fun _ _ => nofun

theorem acts_setPassword (username given : String) (v : Session) :
    Leads rules o.script (fun s => s.world = v ∧ s.log = []) (onSetPassword charm username given)
      (fun r s => r = .ok () → Acted (secretLabel charm) username given o v s.world) := by
  rw [onSetPassword]
  cases known : usernameToPasswordKey.lookup username with
  | none => exact fun s start _ => leads_fail _ v s start.1
  | some key =>
    refine leads_bind (Q := fun _ s => s.world = v ∧ s.log.count .randomPassword = 0) ?_ (fun leader => ?_)
      (fun _ _ _ same => by cases same)
    · rintro s ⟨same,first⟩
      refine ⟨leads_plain (p := ask .isLeader) (avoids_ask Bool.false_ne_true) v s same,?_⟩
      rw [isLeader,run_perform]
      simp [respond,first]
    · by_cases leads : leader = true
      · rw [if_pos leads]
        by_cases empty : given = ""
        · rw [if_pos empty]
          refine leads_bind (leads_draw v) (fun password => ?_) (fun _ _ _ same => by cases same)
          refine fun s start => acts_store known given password v s ⟨start.1,?_⟩
          rw [Passwords.chosen,if_pos empty,start.2 password rfl]
        · rw [if_neg empty]
          refine fun s start => acts_store known given given v s ⟨start.1,?_⟩
          rw [Passwords.chosen,if_neg empty]
      · rw [if_neg leads]
        exact fun s start _ => leads_fail _ v s start.1

end

/-! ### Runs -/

section
variable (app : Application)

/-- The last notice of a unit says whether it leads, a unit that has handled all of them
    has the flag that goes with it, and the passwords are complete. -/
structure Inv (w : World) : Prop where
  leads : ∀ u, w.leader = some u → u ∈ w.members
  pending : ∀ u ∈ w.members, ∀ notice, (w.notices u).getLast? = some notice →
    (notice = .leaderElected ↔ w.leader = some u)
  settled : ∀ u ∈ w.members, w.notices u = [] → (w.flag u = some "true" ↔ w.leader = some u)
  flagged : ∀ u ∈ w.members, w.flag u = some "true" → (w.secrets app.label).isSome = true
  complete : ∀ content, w.secrets app.label = some content → Complete content
  source : ∀ content, w.secrets app.label = some content → ∀ entry ∈ content,
    Drawn entry.2 ∨ w.given entry.1 = some entry.2

theorem inv_fresh : Inv app fresh :=
  ⟨nofun,fun _ member => (by cases member),fun _ member => (by cases member),fun _ member => (by cases member),nofun,
    nofun⟩

variable {app} {w : World}

theorem inv_join (inv : Inv app w) (u : UnitId) : Inv app (step app w (.join u)) := by
  rw [step]
  by_cases member : u ∈ w.members
  · rw [if_pos member]
    exact inv
  · rw [if_neg member]
    have other {v : UnitId} (joined : v ∈ w.members) : v ≠ u := by
      rintro rfl
      exact member joined
    refine ⟨fun v led => List.mem_cons_of_mem _ (inv.leads v led),fun v joined notice last => ?_,
      fun v joined none => ?_,fun v joined flagged => ?_,inv.complete,inv.source⟩
    · rcases List.mem_cons.mp joined with rfl | joined
      · simp only [update_self] at last
        cases last
      · simp only [update_of_ne (other joined)] at last
        exact inv.pending v joined notice last
    · rcases List.mem_cons.mp joined with rfl | joined
      · refine ⟨fun flagged => ?_,fun led => absurd (inv.leads v led) member⟩
        simp only [update_self] at flagged
        cases flagged
      · simp only [update_of_ne (other joined)] at none ⊢
        exact inv.settled v joined none
    · rcases List.mem_cons.mp joined with rfl | joined
      · simp only [update_self] at flagged
        cases flagged
      · simp only [update_of_ne (other joined)] at flagged
        exact inv.flagged v joined flagged

theorem inv_depart (inv : Inv app w) (u : UnitId) : Inv app (step app w (.depart u)) := by
  have stays {v : UnitId} (member : v ∈ w.members.filter (· ≠ u)) : v ∈ w.members ∧ v ≠ u := by
    simpa using List.mem_filter.mp member
  have leader {v : UnitId} (other : v ≠ u) :
      (if w.leader = some u then none else w.leader) = some v ↔ w.leader = some v := by
    by_cases led : w.leader = some u
    · rw [if_pos led,led]
      simp [Ne.symm other]
    · rw [if_neg led]
  refine ⟨fun v led => ?_,fun v member notice last => ?_,fun v member none => ?_,
    fun v member => inv.flagged v (stays member).1,inv.complete,inv.source⟩
  · simp only [step] at led
    split at led
    · cases led
    · rename_i other
      refine List.mem_filter.mpr ⟨inv.leads v led,?_⟩
      simp only [ne_eq,decide_not,Bool.not_eq_eq_eq_not,Bool.not_true,decide_eq_false_iff_not]
      rintro rfl
      exact other led
  · obtain ⟨joined,other⟩ := stays member
    exact (inv.pending v joined notice last).trans (leader other).symm
  · obtain ⟨joined,other⟩ := stays member
    exact (inv.settled v joined none).trans (leader other).symm

theorem inv_elect (inv : Inv app w) (u : UnitId) : Inv app (step app w (.elect u)) := by
  rw [step]
  by_cases member : u ∈ w.members
  · rw [if_pos member]
    have told {v : UnitId} (joined : v ∈ w.members) :
        w.told u v = w.notices v ++ [if v = u then .leaderElected else .leaderSettingsChanged] := by
      unfold World.told
      by_cases same : v = u
      · rw [if_pos same,if_pos same]
      · rw [if_neg same,if_neg same,if_pos joined]
    refine ⟨fun v led => ?_,fun v joined notice last => ?_,fun v joined none => ?_,inv.flagged,inv.complete,inv.source⟩
    · cases led
      exact member
    · simp only [told joined,List.getLast?_concat,Option.some.injEq] at last
      rw [← last]
      by_cases same : v = u
      · simp [same]
      · simp [same,Ne.symm same]
    · simp only [told joined] at none
      exact absurd none (by simp)
  · rw [if_neg member]
    exact inv

theorem getLast_lastNotice (notices : List Notice) : (lastNotice notices).getLast? = notices.getLast? := by
  unfold lastNotice
  cases notices.getLast? <;> rfl

theorem inv_supersede (inv : Inv app w) (u : UnitId) : Inv app (step app w (.supersede u)) := by
  refine ⟨inv.leads,fun v joined notice last => ?_,fun v joined none => ?_,inv.flagged,inv.complete,inv.source⟩
  · refine inv.pending v joined notice ?_
    by_cases same : v = u
    · subst same
      simpa only [step,update_self,getLast_lastNotice] using last
    · simpa only [step,update_of_ne same] using last
  · refine inv.settled v joined ?_
    by_cases same : v = u
    · subst same
      have last := getLast_lastNotice (w.notices v)
      simp only [step,update_self] at none
      rw [none] at last
      exact List.getLast?_eq_none_iff.mp last.symm
    · simpa only [step,update_of_ne same] using none

/-! ### Hooks and actions in a run -/

theorem complete_of_drawn {content : Databag} (listed : content.map Prod.fst = passwordKeys)
    (drawn : ∀ entry ∈ content, Drawn entry.2) : Complete content :=
  ⟨listed,fun entry member => drawn_nonempty (drawn entry member)⟩

theorem Complete.nonempty_list {content : Databag} (complete : Complete content) : content ≠ [] := by
  rintro rfl
  exact absurd complete.keys (by decide)

theorem leads_play {α : Type} {p : Hook α} {script : Script Call Reply Exn} {v : Session}
    {P : Scene Session Call → Prop} {Q : Except Exn α → Scene Session Call → Prop}
    {r : Except Exn α} {s : Scene Session Call}
    (leads : Leads rules script P p Q) (start : P ⟨v,[]⟩) (done : play rules script p v = (r,s)) : Q r s := by
  have led := leads ⟨v,[]⟩ start
  unfold play at done
  rw [done] at led
  exact led

/-- What a handled notice leaves behind. -/
theorem handler_spec {u : UnitId} {o : Outcome} {notice : Notice} {v : Session} {s : Scene Session Call}
    (done : play rules o.script (handler (app.charm u) notice) v = (.ok (),s)) :
    (s.world.flag = some "true" ↔ notice = .leaderElected) ∧ Secured app.label v s.world ∧
      (s.world.flag = some "true" → (s.world.secrets app.label).isSome = true) := by
  cases notice with
  | leaderElected =>
    obtain ⟨flag,there,secured⟩ := leads_play (@leads_onLeaderElected (app.charm u) o v) rfl done rfl
    rw [app.labelled] at there secured
    exact ⟨⟨fun _ => rfl,fun _ => flag⟩,secured,fun _ => there⟩
  | leaderSettingsChanged =>
    have after := leads_play (@leads_setLeaderFlag o false v) rfl done rfl
    have lowered : (some "false" : Option String) ≠ some "true" := by decide
    rw [after]
    exact ⟨⟨fun raised => absurd raised lowered,nofun⟩,secured_same rfl,fun raised => absurd raised lowered⟩

theorem inv_handle (inv : Inv app w) (u : UnitId) (o : Outcome) : Inv app (step app w (.handle u o)) := by
  rw [step]
  cases waiting : w.notices u with
  | nil => exact inv
  | cons notice rest =>
    dsimp only
    rcases done : play rules o.script (handler (app.charm u) notice) (w.session u) with ⟨e | _,s⟩
    · exact inv
    · obtain ⟨flag,secured,there⟩ := handler_spec done
      have held (content : Databag) (present : w.secrets app.label = some content) :
          s.world.secrets app.label = some content :=
        secured.kept content present (inv.complete content present).nonempty_list
      refine ⟨inv.leads,fun v joined other last => ?_,fun v joined none => ?_,fun v joined flagged => ?_,
        fun content present => ?_,fun content present => ?_⟩
      · by_cases same : v = u
        · subst same
          simp only [update_self] at last
          refine inv.pending v joined other ?_
          rw [waiting,List.getLast?_cons,last]
          rfl
        · simp only [update_of_ne same] at last
          exact inv.pending v joined other last
      · by_cases same : v = u
        · subst same
          simp only [update_self] at none ⊢
          subst none
          exact flag.trans (inv.pending v joined notice (by rw [waiting]; rfl))
        · simp only [update_of_ne same] at none ⊢
          exact inv.settled v joined none
      · by_cases same : v = u
        · subst same
          simp only [update_self] at flagged
          exact there flagged
        · simp only [update_of_ne same] at flagged
          obtain ⟨content,present⟩ := Option.isSome_iff_exists.mp (inv.flagged v joined flagged)
          show (s.world.secrets app.label).isSome = true
          rw [held content present]
          rfl
      · rcases secured.drawn content present with before | ⟨listed,drawn⟩
        · exact inv.complete content before
        · exact complete_of_drawn listed drawn
      · rcases secured.drawn content present with before | ⟨listed,drawn⟩
        · exact inv.source content before
        · exact fun entry member => .inl (drawn entry member)

theorem keys_updated {content : Databag} {key : String} (value : String) (there : key ∈ content.map Prod.fst) :
    (updated content key value).map Prod.fst = content.map Prod.fst := by
  induction content with
  | nil => cases there
  | cons entry rest ih =>
    obtain ⟨k,v⟩ := entry
    by_cases same : k = key
    · simp [updated,same]
    · have later : key ∈ rest.map Prod.fst := by simpa [Ne.symm same] using there
      simp only [updated,if_neg same,List.map_cons,ih later]

theorem mem_updated {content : Databag} {key value : String} (distinct : (content.map Prod.fst).Nodup)
    {entry : String × String} (member : entry ∈ updated content key value) :
    entry = (key,value) ∨ entry ∈ content ∧ entry.1 ≠ key := by
  induction content with
  | nil => exact .inl (List.mem_singleton.mp member)
  | cons first rest ih =>
    obtain ⟨k,v⟩ := first
    obtain ⟨new,distinct⟩ := List.nodup_cons.mp distinct
    by_cases same : k = key
    · simp only [updated,if_pos same,List.mem_cons] at member
      rcases member with rfl | member
      · exact .inl (by rw [same])
      · refine .inr ⟨List.mem_cons_of_mem _ member,?_⟩
        rintro rfl
        exact new (List.mem_map.mpr ⟨entry,member,same.symm⟩)
    · simp only [updated,if_neg same,List.mem_cons] at member
      rcases member with rfl | member
      · exact .inr ⟨List.mem_cons_self,same⟩
      · exact (ih distinct member).imp id (fun held => ⟨List.mem_cons_of_mem _ held.1,held.2⟩)

theorem lookup_updated_ne (content : Databag) {key other : String} (value : String) (different : other ≠ key) :
    (updated content key value).lookup other = content.lookup other := by
  have unequal : (other == key) = false := by simpa using different
  induction content with
  | nil => simp [updated,List.lookup_cons,unequal]
  | cons entry rest ih =>
    obtain ⟨k,v⟩ := entry
    by_cases same : k = key
    · subst same
      simp [updated,List.lookup_cons,unequal]
    · simp only [updated,if_neg same,List.lookup_cons,ih]

theorem key_mem {username key : String} (known : usernameToPasswordKey.lookup username = some key) :
    key ∈ passwordKeys := by
  obtain ⟨before,after,split,-⟩ := List.lookup_eq_some_iff.mp known
  rw [passwordKeys,split]
  simp

theorem chosen_nonempty {given password : String} {o : Outcome}
    (chosen : Passwords.chosen given o.script = some password) : password ≠ "" := by
  unfold Passwords.chosen at chosen
  split at chosen
  · split at chosen
    · rename_i drawn
      cases chosen
      exact drawn_nonempty (o.drawn 0 _ drawn)
    · cases chosen
  · rename_i full
    cases chosen
    exact full

theorem complete_updated {content : Databag} (complete : Complete content) {key value : String}
    (member : key ∈ passwordKeys) (full : value ≠ "") : Complete (updated content key value) := by
  have distinct : (content.map Prod.fst).Nodup := by
    rw [complete.keys]
    decide
  refine ⟨?_,fun entry listed => ?_⟩
  · rw [keys_updated value (by rw [complete.keys]; exact member),complete.keys]
  · rcases mem_updated distinct listed with rfl | ⟨held,-⟩
    · exact full
    · exact complete.nonempty entry held

/-- An action that has ended: nothing is stored, or one password. -/
theorem setPassword_spec {u : UnitId} {username given : String} {o : Outcome} (member : u ∈ w.members) :
    step app w (.setPassword u username given o) = w ∨ ∃ key password content,
      usernameToPasswordKey.lookup username = some key ∧ password ≠ "" ∧ w.secrets app.label = some content ∧
      step app w (.setPassword u username given o) = { w with
        secrets := update w.secrets app.label (some (updated content key password))
        given := update w.given key (some password) } := by
  rw [step,if_pos member]
  rcases done : play rules o.script (onSetPassword (app.charm u) username given) (w.session u) with ⟨e | _,s⟩
  · exact .inl rfl
  · have acted := leads_play (@acts_setPassword (app.charm u) o username given (w.session u)) ⟨rfl,rfl⟩ done rfl
    cases acted with
    | failed same =>
      left
      simp only [same]
      rfl
    | stored key password content known chosen held after =>
      right
      rw [app.labelled] at held after
      refine ⟨key,password,content,known,chosen_nonempty chosen,held,?_⟩
      simp only [after,stored,known,chosen]
      rfl

theorem inv_setPassword (inv : Inv app w) (u : UnitId) (username given : String) (o : Outcome) :
    Inv app (step app w (.setPassword u username given o)) := by
  by_cases member : u ∈ w.members
  · rcases @setPassword_spec app w u username given o member with same | ⟨key,password,content,known,full,held,after⟩
    · rw [same]
      exact inv
    · rw [after]
      have complete := inv.complete content held
      have distinct : (content.map Prod.fst).Nodup := by
        rw [complete.keys]
        decide
      refine ⟨inv.leads,inv.pending,inv.settled,fun _ _ _ => ?_,fun now present => ?_,
        fun now present entry listed => ?_⟩
      · simp only [update_self]
        rfl
      · simp only [update_self] at present
        cases present
        exact complete_updated complete (key_mem known) full
      · simp only [update_self] at present
        cases present
        rcases mem_updated distinct listed with rfl | ⟨before,other⟩
        · exact .inr (update_self ..)
        · simp only [update_of_ne other]
          exact inv.source content held entry before
  · rw [step,if_neg member]
    exact inv

theorem inv_step (inv : Inv app w) (e : Event) : Inv app (step app w e) := by
  cases e with
  | join u => exact inv_join inv u
  | depart u => exact inv_depart inv u
  | elect u => exact inv_elect inv u
  | supersede u => exact inv_supersede inv u
  | handle u o => exact inv_handle inv u o
  | setPassword u username password o => exact inv_setPassword inv u username password o

theorem inv_run (inv : Inv app w) (events : List Event) : Inv app (run app w events) := by
  induction events generalizing w with
  | nil => exact inv
  | cons e events ih => exact ih (inv_step inv e)

/-! ### The leader as its peers see it -/

/-- The peer relation as a unit sees it, with the flags of the other units. -/
def World.peers (w : World) (u : UnitId) : PeersRelation where
  units := (w.members.filter (· ≠ u)).map (fun v => (v,((w.flag v).map (fun flag => ("leader",flag))).toList))
  own := ((w.flag u).map (fun flag => ("leader",flag))).toList
  place := 0

theorem flagged_iff (flag : Option String) :
    PeerStateUnit.getUnitLeaderFlag ((flag.map (fun flag => ("leader",flag))).toList) = some true ↔
      flag = some "true" := by
  cases flag with
  | none => exact ⟨nofun,nofun⟩
  | some text =>
    by_cases empty : text = ""
    · subst empty
      decide
    · have read : PeerStateUnit.getUnitLeaderFlag [("leader",text)] = some (text == "true") := by
        simp [PeerStateUnit.getUnitLeaderFlag,setting,nonEmpty,List.lookup_cons,empty]
      simp [read]

theorem leaderAmong_eq (w : World) (u : UnitId) :
    leaderAmong (some (w.peers u)) = (w.members.filter (· ≠ u)).find? (fun v => decide (w.flag v = some "true")) := by
  simp only [leaderAmong,World.peers,List.find?_map,Option.map_map]
  have same : ((fun unit : UnitId × Databag => PeerStateUnit.getUnitLeaderFlag unit.2 == some true) ∘ fun v =>
      (v,((w.flag v).map (fun flag => ("leader",flag))).toList)) = fun v => decide (w.flag v = some "true") := by
    funext v
    rw [Function.comp_apply,Bool.eq_iff_iff,beq_iff_eq,decide_eq_true_iff]
    exact flagged_iff (w.flag v)
  rw [same]
  exact Option.map_id'

/-- A unit that finds a leader among its peers finds the one that Juju elected last, or
    one that Juju has told otherwise since. Once every unit has handled what it was told,
    each finds the leader, and the leader finds none. -/
theorem leader_found (app : Application) (events : List Event) (u : UnitId) :
    (∀ v, leaderAmong (some ((run app fresh events).peers u)) = some v →
      (run app fresh events).leader = some v ∨ (run app fresh events).notices v ≠ []) ∧
    ((∀ v ∈ (run app fresh events).members, (run app fresh events).notices v = []) →
      leaderAmong (some ((run app fresh events).peers u)) =
        if (run app fresh events).leader = some u then none else (run app fresh events).leader) := by
  have inv := inv_run (inv_fresh app) events
  generalize run app fresh events = w at inv
  rw [leaderAmong_eq]
  have settled {v : UnitId} (member : v ∈ w.members.filter (· ≠ u)) (flagged : w.flag v = some "true")
      (none : w.notices v = []) : w.leader = some v :=
    (inv.settled v (List.mem_filter.mp member).1 none).mp flagged
  refine ⟨fun v found => ?_,fun quiet => ?_⟩
  · have flagged : w.flag v = some "true" := by simpa using List.find?_some found
    by_cases none : w.notices v = []
    · exact .inl (settled (List.mem_of_find?_eq_some found) flagged none)
    · exact .inr none
  · cases found : (w.members.filter (· ≠ u)).find? (fun v => decide (w.flag v = some "true")) with
    | some v =>
      have member := List.mem_of_find?_eq_some found
      obtain ⟨joined,other⟩ : v ∈ w.members ∧ v ≠ u := by simpa using List.mem_filter.mp member
      have led := settled member (by simpa using List.find?_some found) (quiet v joined)
      rw [led,if_neg (by simpa using other)]
    | none =>
      cases led : w.leader with
      | none => rfl
      | some v =>
        by_cases same : v = u
        · rw [if_pos (by rw [same])]
        · have joined := inv.leads v led
          have flagged := (inv.settled v joined (quiet v joined)).mpr led
          have absent := List.find?_eq_none.mp found v (List.mem_filter.mpr ⟨joined,by simpa using same⟩)
          exact absurd (by simpa using flagged) absent

/-! ### The passwords -/

/-- In every state that the application can reach, the passwords that a unit fetches are
    either none or all of them, none empty, and each drawn by the charm or stored last by
    set-password. They are there once the leader has its flag. -/
theorem passwords_complete (app : Application) (events : List Event) :
    (∀ u ∈ (run app fresh events).members, (run app fresh events).flag u = some "true" →
      ((run app fresh events).secrets app.label).isSome = true) ∧
    ∀ u (o : Outcome) content s, play rules o.script (fetchPasswords (app.charm u)) ((run app fresh events).session u) =
        (.ok content,s) →
      content = [] ∨ Complete content ∧
        ∀ entry ∈ content, Drawn entry.2 ∨ (run app fresh events).given entry.1 = some entry.2 := by
  have inv := inv_run (inv_fresh app) events
  generalize run app fresh events = w at inv
  refine ⟨inv.flagged,fun u o content s fetched => ?_⟩
  have read := (leads_play (@leads_fetchPasswords (app.charm u) o (w.session u)) rfl fetched).2 content rfl
  rw [app.labelled] at read
  exact read.imp id (fun held => ⟨inv.complete content held,inv.source content held⟩)

/-- The secret holds what set-password has stored since, and else what it held. -/
def Follows (app : Application) (content : Databag) (w : World) : Prop :=
  ∃ now, w.secrets app.label = some now ∧ Complete now ∧
    ∀ key ∈ passwordKeys, now.lookup key = (w.given key).or (content.lookup key)

section
variable {app : Application} {w : World} {content : Databag}

theorem follows_step (follows : Follows app content w) (e : Event) : Follows app content (step app w e) := by
  obtain ⟨now,held,complete,right⟩ := follows
  cases e with
  | join u =>
    rw [step]
    split <;> exact ⟨now,held,complete,right⟩
  | depart u => exact ⟨now,held,complete,right⟩
  | elect u =>
    rw [step]
    split <;> exact ⟨now,held,complete,right⟩
  | supersede u => exact ⟨now,held,complete,right⟩
  | handle u o =>
    rw [step]
    cases w.notices u with
    | nil => exact ⟨now,held,complete,right⟩
    | cons notice rest =>
      dsimp only
      rcases done : play rules o.script (handler (app.charm u) notice) (w.session u) with ⟨e | _,s⟩
      · exact ⟨now,held,complete,right⟩
      · obtain ⟨-,secured,-⟩ := handler_spec done
        exact ⟨now,secured.kept now held complete.nonempty_list,complete,right⟩
  | setPassword u username given o =>
    by_cases member : u ∈ w.members
    · rcases @setPassword_spec app w u username given o member with same | ⟨key,password,before,known,full,there,after⟩
      · rw [same]
        exact ⟨now,held,complete,right⟩
      · rw [after]
        obtain rfl : now = before := Option.some.inj (held.symm.trans there)
        refine ⟨updated now key password,update_self ..,complete_updated complete (key_mem known) full,
          fun other listed => ?_⟩
        by_cases same : other = key
        · subst same
          rw [lookup_updated]
          simp only [update_self,Option.some_or]
        · rw [lookup_updated_ne now password same]
          simp only [update_of_ne same]
          exact right other listed
    · rw [step,if_neg member]
      exact ⟨now,held,complete,right⟩

theorem follows_run (follows : Follows app content w) (events : List Event) :
    Follows app content (run app w events) := by
  induction events generalizing w with
  | nil => exact follows
  | cons e events ih => exact ih (follows_step follows e)

/-- The value that is read is the one of the secret. -/
theorem leads_getValue {o : Outcome} (label key : String) (v : Session) :
    Leads rules o.script (fun s => s.world = v) (SecretStore.getValue label key)
      (fun r _ => ∀ value, r = .ok value →
        ∃ content, v.secrets label = some content ∧ content.lookup key = some value) := by
  have read : SecretStore.getValue label key = (do
      let content ← SecretStore.getContent label
      match nonEmpty (content.lookup key) with
      | none => raise ⟨.valueError,"Failed to get secret key " ++ key⟩
      | some value => pure value) := (bind_assoc _ _ _).symm
  rw [read]
  refine leads_bind (leads_getContent label v) (fun content => ?_) (fun _ _ _ => nofun)
  split
  · exact leads_raise fun _ _ => nofun
  · rename_i value found
    refine leads_ret fun _ known read same => ⟨content,known.2 content rfl,?_⟩
    cases same
    unfold nonEmpty at found
    split at found
    · cases found
    · exact found

end

theorem leads_onGetPassword {charm : Charm} {o : Outcome} (username : String) (v : Session) :
    Leads rules o.script (fun s => s.world = v) (onGetPassword charm username)
      (fun r _ => ∀ results, r = .ok (some results) → ∃ key password content,
        usernameToPasswordKey.lookup username = some key ∧ results = [("username",username),("password",password)] ∧
        v.secrets (secretLabel charm) = some content ∧ content.lookup key = some password) := by
  have refused (message : String) : Leads rules o.script (fun _ => True)
      (do ask (.fail message)
          pure none : Hook (Option (List (String × String)))) (fun r _ => ∀ results, r ≠ .ok (some results)) :=
    leads_bind (Q := fun _ _ => True) (fun _ _ => trivial) (fun _ => leads_ret fun _ _ _ => nofun)
      (fun _ _ _ _ => nofun)
  rw [onGetPassword]
  cases known : usernameToPasswordKey.lookup username with
  | none => exact fun s _ results shown => absurd shown (refused _ s trivial results)
  | some key =>
    refine leads_handle (leads_getValue (secretLabel charm) key v) (fun password => ?_) (fun e => ?_)
    · refine leads_ret fun s read results shown => ?_
      cases shown
      obtain ⟨content,held,found⟩ := read password rfl
      exact ⟨key,password,content,rfl,rfl,held,found⟩
    · by_cases caught : e.isValueError = true
      · rw [if_pos caught]
        exact fun s _ results shown => absurd shown (refused _ s trivial results)
      · rw [if_neg caught]
        exact leads_raise fun _ _ _ => nofun

/-- Whatever elections, hooks and actions come after the passwords are there, get-password
    shows on every unit the password that set-password has stored last for the user since
    then, or else the one that was there. -/
theorem shows_last_password (app : Application) (before after : List Event) {content : Databag}
    (there : (run app fresh before).secrets app.label = some content) {u : UnitId} {username : String} {o : Outcome}
    {results : List (String × String)} {s : Scene Session Call}
    (shown : play rules o.script (onGetPassword (app.charm u) username)
      ((run app { run app fresh before with given := fun _ => none } after).session u) = (.ok (some results),s)) :
    ∃ key password, usernameToPasswordKey.lookup username = some key ∧
      results = [("username",username),("password",password)] ∧
      ((run app { run app fresh before with given := fun _ => none } after).given key).or (content.lookup key) =
        some password := by
  have complete := (inv_run (inv_fresh app) before).complete content there
  have start : Follows app content { run app fresh before with given := fun _ => none } :=
    ⟨content,there,complete,fun _ _ => rfl⟩
  obtain ⟨now,held,-,right⟩ := follows_run start after
  obtain ⟨key,password,read,known,same,present,found⟩ :=
    leads_play (@leads_onGetPassword (app.charm u) o username _) rfl shown results rfl
  rw [app.labelled] at present
  obtain rfl : now = read := Option.some.inj (held.symm.trans present)
  exact ⟨key,password,known,same,(right key (key_mem known)).symm.trans found⟩

/-! ### A run -/

def machines : Application where
  charm u := ⟨.vm,"mysql",u,"cluster",""⟩
  label := secretLabel ⟨.vm,"mysql",0,"cluster",""⟩
  labelled _ := rfl

def drawnPassword : String := "abcdefghijklmnopqrstuvX0"

theorem drawn_drawnPassword : Drawn drawnPassword := by
  have letters : drawnPassword.toList.all choices.contains = true := by decide
  refine (drawn_iff drawnPassword).mpr ⟨⟨(by decide),fun c member => ?_⟩,(by decide)⟩
  exact List.contains_iff_mem.mp (List.all_eq_true.mp letters c member)

/-- Every call succeeds. -/
def smooth : Outcome where
  script :=
    { reply := fun c _ =>
        match c with
        | .randomPassword => .ok drawnPassword
        | .snapPresent => .ok true
        | .clusterSetStatus _ => .ok ⟨"cluster",[("cluster",⟨"OK",some "10.0.0.1:3306"⟩)]⟩
        | _ => .ok default
      takesEffect := fun _ _ => true }
  drawn _ password drawn := by
    cases drawn
    exact drawn_drawnPassword

/-- The first unit leads two units and creates the passwords. -/
def founding : List Event := [.join 0,.join 1,.elect 0,.handle 0 smooth,.handle 1 smooth]

/-- It changes the password of the operator, and the second unit is elected. -/
def handover : List Event :=
  [.setPassword 0 usernameOperator "changed" smooth,.elect 1,.handle 1 smooth,
   .setPassword 0 usernameOperator "late" smooth]

def founded : Databag := passwordKeys.map (fun key => (key,drawnPassword))

theorem handover_shows_changed : ∃ key password, usernameToPasswordKey.lookup usernameOperator = some key ∧
    [("username",usernameOperator),("password","changed")] = [("username",usernameOperator),("password",password)] ∧
    ((run machines { run machines fresh founding with given := fun _ => none } handover).given key).or
      (founded.lookup key) = some password :=
  shows_last_password machines founding handover (by decide +kernel) (Prod.ext (by decide +kernel) rfl :
    play rules smooth.script (onGetPassword (machines.charm 1) usernameOperator) _ =
      (_,(play rules smooth.script (onGetPassword (machines.charm 1) usernameOperator) _).2))

end

end MysqlOperators.Leadership
