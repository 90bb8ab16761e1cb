import MysqlOperators.Lifecycle
import MysqlOperators.Quiet
import MysqlOperators.Scripted

/-!
The first start of a unit. Juju runs the start hook again when it fails, and what
is on the disk and in MySQL survives. The hook tells a new instance from one that
is set up by the data files that `mysqld` leaves when it initialises its directory.
-/
namespace MysqlOperators.FirstStart
open MysqlOperators.Program MysqlOperators.Program.Prog MysqlOperators.External MysqlOperators.Clients
open MysqlOperators.Workload MysqlOperators.Helpers MysqlOperators.Quiet MysqlOperators.Scripted
open MysqlOperators.Lifecycle
set_option linter.unusedSimpArgs false

/-! ### The instance -/

/-- What is on the disk of the unit and in its MySQL. -/
structure Instance where
  dataFiles : Bool
  routerRole : Bool
  authRoles : Bool
  backupUser : Bool
  monitorUser : Bool
  configured : Bool
  cluster : Bool
  clusterSet : Bool
  /-- Whether the unit had last been told that it is the leader when its instance
      was configured. -/
  asLeader : Bool
deriving DecidableEq, Repr

def fresh : Instance := ⟨false,false,false,false,false,false,false,false,false⟩

/-- An instance, and whether Juju last told the unit that it is the leader. -/
structure Machine where
  instance_ : Instance
  leader : Bool
deriving DecidableEq, Repr

/-- What a call that takes effect does to the instance. A wipe that raises may have
    left the data files behind. -/
def change (s : Substrate) (leader : Bool) (i : Instance) (ok : Bool) : Call → Instance
  | .executeSync (.deleteContents path) =>
    if path = mysqlData s then { fresh with dataFiles := if ok then false else i.dataFiles } else i
  | .executeSync (.initializeServer _) => { i with dataFiles := true }
  | .executeSql .own (.script text) =>
    if text = InstanceClient.routerRoleScript rolenameRouter then { i with routerRole := true } else i
  | .executeSql .own .instanceAuthRoles => { i with authRoles := true }
  | .createUser .own username _ _ =>
    if username = usernameBackups then { i with backupUser := true }
    else if username = usernameMonitor then { i with monitorUser := true }
    else i
  | .setupInstanceConfig .own _ _ => { i with configured := true, asLeader := leader }
  | .createCluster .own => { i with cluster := true }
  | .createClusterSet .own => { i with clusterSet := true }
  | _ => i

/-- The answers that the instance decides, and what the calls do to it. -/
def startRules (s : Substrate) : Rules Machine Call Reply Exn where
  answer m c r := match c, r with
    | .executeSync (.findDataFiles _), .ok _ => .ok (if m.instance_.dataFiles then "mysql.ibd" else "")
    | _, r => r
  effect m c r happened := match c, r with
    | .isLeader, .ok leader => { m with leader := leader }
    | c, .ok _ => { m with instance_ := change s m.leader m.instance_ true c }
    | c, .error _ => if happened then { m with instance_ := change s m.leader m.instance_ false c } else m

/-- The calls that may change the instance. -/
def Touches (c : Call) : Prop := match c with
  | .executeSync (.deleteContents _) | .executeSync (.initializeServer _) | .executeSql _ _ | .createUser _ _ _ _
  | .setupInstanceConfig _ _ _ | .createCluster _ | .createClusterSet _ => True
  | _ => False

theorem change_same (s : Substrate) (leader : Bool) (i : Instance) (ok : Bool) {c : Call} (other : ¬ Touches c) :
    change s leader i ok c = i := by
  unfold change
  split <;> first | rfl | exact absurd trivial other

/-! ### A start that is complete -/

/-- The roles and the users exist, and the instance is configured for clustering. -/
def Instance.Provisioned (i : Instance) : Prop :=
  i.routerRole = true ∧ i.authRoles = true ∧ i.backupUser = true ∧ i.monitorUser = true ∧ i.configured = true

/-- The instance is set up, with its cluster if the unit was set up as the leader. -/
def Instance.Ready (i : Instance) : Prop := i.Provisioned ∧ (i.asLeader = true → i.cluster = true ∧ i.clusterSet = true)

/-- What a start must have brought about. -/
def Complete (m : Machine) : Prop :=
  m.instance_.Provisioned ∧ (m.leader = true → m.instance_.cluster = true ∧ m.instance_.clusterSet = true)

/-- An attempt is given by the outcomes of its calls. -/
abbrev Attempt := Script Call Reply Exn

section
variable (charm : Charm)

abbrev attempt {α : Type} (script : Attempt) (p : Hook α) (s : Scene Machine Call) : Except Exn α × Scene Machine Call :=
  run (respond (startRules charm.substrate) script) p s

def start (script : Attempt) (m : Machine) : Except Exn Unit × Scene Machine Call :=
  play (startRules charm.substrate) script (onStart charm) m

/-- The attempt returns and does not defer its event. -/
def Started (script : Attempt) (m : Machine) : Prop :=
  (start charm script m).1 = .ok () ∧ Call.defer ∉ (start charm script m).2.log

/-- Every attempt that returns leaves a complete instance. -/
def Consistent : List Attempt → Machine → Prop
  | [], _ => True
  | script :: rest, m =>
    (Started charm script m → Complete (start charm script m).2.world) ∧
      Consistent rest (start charm script m).2.world

/-- The set-up after `mysqld` has initialised the data directory. -/
def finishSetup (passwords : Passwords) (operator : String) : Hook Unit := do
  ServerService.setOperatorUser charm.substrate usernameOperator operator
  configureServer charm passwords

/-- Once the data directory is wiped or initialised, the start of the server does
    not fail before the instance is set up, unless no data files are left. -/
def SetsUp (script : Attempt) (passwords : Passwords) (s : Scene Machine Call) : Prop :=
  match attempt charm script (ServerService.initialized charm.substrate) s with
  | (.ok false,s₁) => ∀ operator, passwords.lookup passwordKeyOperator = some operator →
    match attempt charm script (ServerService.resetDirectories charm.substrate) s₁ with
    | (.error _,s₂) => s₂.world.instance_.dataFiles = true → s₂.world.instance_ = s₁.world.instance_
    | (.ok _,s₂) => ∀ r s₃, attempt charm script (ServerService.initDirectories charm.substrate) s₂ = (r,s₃) →
      s₃.world.instance_.dataFiles = true →
        r = .ok () ∧ (attempt charm script (finishSetup charm passwords operator) s₃).1 = .ok ()
  | _ => True

def Uninterrupted (script : Attempt) (m : Machine) : Prop :=
  match play (startRules charm.substrate) script (beforeStart charm) m with
  | (.ok (some passwords),s) => SetsUp charm script passwords s
  | _ => True

/-- The condition on an attempt: it is not interrupted, and a unit that ends it as
    the leader was the leader when its instance was configured. -/
def Meets (script : Attempt) (m : Machine) : Prop :=
  Uninterrupted charm script m ∧
    (Started charm script m → (start charm script m).2.world.leader = true →
      (start charm script m).2.world.instance_.asLeader = true)

def AllMeet : List Attempt → Machine → Prop
  | [], _ => True
  | script :: rest, m => Meets charm script m ∧ AllMeet rest (start charm script m).2.world

end

/-! ### The steps that leave the instance as it is -/

section
variable {α : Type} {bad : Call → Prop}

theorem avoids_passwordAt (passwords : Passwords) (key : String) : Avoids bad (passwordAt passwords key) := by
  unfold passwordAt
  split <;> trivial

theorem avoids_installEach (free : ∀ urn, ¬ bad (.installComponent .own urn)) (installed : List String) :
    ∀ components, Avoids bad (InstanceClient.installEach installed components)
  | [] => trivial
  | _ :: rest => by
    have later := avoids_installEach free installed rest
    unfold InstanceClient.installEach
    split
    · exact avoids_ite _ (fun _ => later) (fun _ => avoids_bind (avoids_ask (free _)) (fun _ => later))
    · exact later

/-- Calls that look for data files, start and stop the server, install its
    components, and publish the state of the unit. -/
def furnishes : Call → Bool
  | .executeSync (.findDataFiles _) | .canConnect | .snapPresent | .snapStart _ | .snapStop _ | .addLayer _
  | .containerStart _ | .containerStop _ | .waitForConnection _ | .writeText _ _ | .unlink _
  | .configValue _ | .searchComponents _ | .installComponent _ _
  | .isLeader | .refreshing | .instanceState _ | .setUnitData _ _ | .setUnitStatus _ | .setPorts _ => true
  | _ => false

variable (free : ∀ c, furnishes c = true → ¬ bad c)
include free

theorem avoids_startServer (s : Substrate) : Avoids bad (ServerService.start s) := by
  refine avoids_start (fun c starts => free c ?_) s
  unfold startsServer at starts
  split at starts <;> first | contradiction | rfl

theorem avoids_stopServer (s : Substrate) : Avoids bad (ServerService.stop s) := by
  refine avoids_stop (fun c stops => free c ?_) s
  unfold stopsServer at stops
  split at stops <;> first | contradiction | rfl

theorem avoids_initServerService : Avoids bad initServerService :=
  avoids_bind (avoids_ask (free _ rfl)) fun _ => avoids_bind (avoids_ask (free _ rfl)) fun _ =>
    avoids_installEach (fun _ => free _ rfl) _ _

theorem avoids_dataFiles (s : Substrate) : Avoids bad (ServerService.initialized s) := by
  have files (s : Substrate) : Avoids bad (ServerService.hasDataFiles s) :=
    avoids_bind (avoids_ask (free _ rfl)) (fun _ => trivial)
  cases s with
  | vm => exact files .vm
  | k8s => exact avoids_bind (avoids_ask (free _ rfl)) fun _ => avoids_ite _ (fun _ => files .k8s) (fun _ => trivial)

theorem avoids_setOperatorUser (s : Substrate) (username password : String) :
    Avoids bad (ServerService.setOperatorUser s username password) := by
  refine avoids_bind (avoids_ask (free _ rfl)) fun _ => avoids_bind (avoids_ask (free _ rfl)) fun _ => ?_
  refine avoids_finallyDo (avoids_bind (avoids_startServer free s) fun _ => avoids_stopServer free s) ?_
  exact avoids_bind (avoids_ask (free _ rfl)) fun _ => avoids_ask (free _ rfl)

theorem avoids_managerUpdateState (role : InstanceRole) (state : String) :
    Avoids bad (LifecycleManager.updateState (some role) (some state)) := by
  unfold LifecycleManager.updateState
  refine avoids_bind trivial fun _ => avoids_bind ?_ fun _ =>
    avoids_bind (avoids_ask (free _ rfl)) fun _ => avoids_ask (free _ rfl)
  split
  · trivial
  · exact avoids_bind (avoids_ask (free _ rfl)) (fun _ => trivial)

theorem avoids_setUnitStatus (status : Status) : Avoids bad (setUnitStatus status) :=
  avoids_bind (avoids_ask (free _ rfl)) fun _ => avoids_ite _ (fun _ => trivial) (fun _ => avoids_ask (free _ rfl))

theorem avoids_updateState : Avoids bad updateState := by
  have ports : Avoids bad ((ask (.setPorts ServerService.port)).tryExcept Exn.isModelError (fun _ => pure ())) :=
    avoids_tryExcept (avoids_ask (free _ rfl)) (fun _ => trivial)
  have publishes (role : InstanceRole) (state : String) (status : Status) : Avoids bad (do
      LifecycleManager.updateState (some role) (some state)
      setUnitStatus status
      (ask (.setPorts ServerService.port)).tryExcept Exn.isModelError (fun _ => pure ()) : Hook Unit) :=
    avoids_bind (avoids_managerUpdateState free _ _) fun _ => avoids_bind (avoids_setUnitStatus free _) fun _ => ports
  exact avoids_bind (avoids_ask (free _ rfl)) fun leader =>
    avoids_ite _ (fun _ => publishes _ _ _) (fun _ => publishes _ _ _)

end

theorem keeps_ask {c : Call} (other : ¬ Touches c) : Avoids Touches (ask c) := avoids_ask other

theorem keeps_of_quiet {α : Type} {p : Hook α} (silent : Avoids Loud p) : Avoids Touches p :=
  avoids_mono (fun c touches => by
    unfold Touches at touches
    split at touches <;> first | rfl | exact touches.elim) silent

theorem keeps_of_furnishes (c : Call) (asks : furnishes c = true) : ¬ Touches c := by
  unfold furnishes at asks
  split at asks <;> first | contradiction | exact id

theorem keeps_start (s : Substrate) : Avoids Touches (ServerService.start s) :=
  avoids_startServer keeps_of_furnishes s

theorem keeps_initServerService : Avoids Touches initServerService := avoids_initServerService keeps_of_furnishes

theorem keeps_initialized (s : Substrate) : Avoids Touches (ServerService.initialized s) :=
  avoids_dataFiles keeps_of_furnishes s

theorem keeps_setOperatorUser (s : Substrate) (username password : String) :
    Avoids Touches (ServerService.setOperatorUser s username password) :=
  avoids_setOperatorUser keeps_of_furnishes s username password

theorem keeps_updateState : Avoids Touches updateState := avoids_updateState keeps_of_furnishes

theorem keeps_startExporterService (charm : Charm) (passwords : Passwords) :
    Avoids Touches (startExporterService charm passwords) := by
  refine avoids_bind (avoids_passwordAt _ _) fun _ => avoids_bind ?_ fun _ => ?_
  · unfold ExporterService.setup
    split
    · exact avoids_bind (keeps_ask id) fun _ => avoids_ite _ (fun _ => keeps_ask id) (fun _ => trivial)
    · exact keeps_ask id
  · cases charm.substrate with
    | vm =>
      refine avoids_bind (keeps_ask id) fun _ => avoids_ite _ (fun _ => ?_) (fun _ => trivial)
      exact avoids_bind (keeps_ask id) fun _ => keeps_ask id
    | k8s =>
      exact avoids_bind (keeps_ask id) fun _ => avoids_bind (keeps_ask id) fun _ =>
        avoids_bind (keeps_ask id) fun _ => keeps_ask id

theorem keeps_beforeStart (charm : Charm) : Avoids Touches (beforeStart charm) := by
  have defers : ∀ (p : Hook Unit), Avoids Touches p →
      Avoids Touches (do p; ask .defer; pure none : Hook (Option Passwords)) := fun p keeps =>
    avoids_bind keeps fun _ => avoids_bind (keeps_ask id) (fun _ => avoids_ret _)
  refine avoids_bind (keeps_of_quiet (quiet_systemReady _)) fun ready => avoids_ite _ (fun _ => ?_) fun _ => ?_
  · refine avoids_bind (avoids_tryExcept ?_ (fun _ => trivial)) fun passwords => avoids_ite _ (fun _ => ?_) fun _ => ?_
    · have found : ∀ label, Avoids Touches (SecretStore.getSecret label) := fun label =>
        avoids_tryExcept (keeps_ask id) (fun _ => trivial)
      exact avoids_bind (found _) fun _ => keeps_ask id
    · exact defers (pure ()) trivial
    · refine avoids_bind (keeps_ask id) fun leader => avoids_bind ?_ fun served => avoids_ite _ (fun _ => ?_) fun _ => ?_
      · refine avoids_ite _ (fun _ => ?_) (fun _ => trivial)
        unfold createAppServices
        split
        · trivial
        · exact avoids_tryElse (avoids_bind (keeps_ask id) fun _ => keeps_ask id) (fun _ => trivial) (fun _ => trivial)
      · exact avoids_bind (keeps_ask id) (fun _ => trivial)
      · exact defers _ (keeps_of_quiet (quiet_setUnitStatus _))
  · exact defers (pure ()) trivial

/-! ### The steps that set the instance up -/

section
variable {s : Substrate} {script : Attempt}

def Holds (P : Instance → Prop) (scene : Scene Machine Call) : Prop := P scene.world.instance_

/-- Each call leaves the instance as it was, or changes it. -/
theorem effect_instance (m : Machine) (c : Call) (r : Except Exn (Reply c)) (happened : Bool) :
    ((startRules s).effect m c r happened).instance_ = m.instance_ ∨
      ∃ ok, ((startRules s).effect m c r happened).instance_ = change s m.leader m.instance_ ok c := by
  simp only [startRules]
  split
  · exact .inl rfl
  · exact .inr ⟨true,rfl⟩
  · split
    · exact .inr ⟨false,rfl⟩
    · exact .inl rfl

theorem touches_effect (m : Machine) {c : Call} (other : ¬ Touches c) (r : Except Exn (Reply c)) (happened : Bool) :
    ((startRules s).effect m c r happened).instance_ = m.instance_ := by
  rcases effect_instance m c r happened with same | ⟨ok,same⟩
  · exact same
  · rw [same,change_same _ _ _ _ other]

/-- The steps that do not touch the instance keep what holds of it. -/
theorem holds_frame {α : Type} {P : Instance → Prop} {p : Hook α} (keeps : Avoids Touches p) :
    Triple (startRules s) script (Holds P) p (fun _ => Holds P) := by
  refine triple_frame (fun scene c r happened other before => ?_) keeps
  rw [Holds,Scene.after,touches_effect _ other]
  exact before

/-- The other calls, when they return, change it. -/
theorem holds_ask {P Q : Instance → Prop} {c : Call} (known : c ≠ .isLeader)
    (brings : ∀ i leader, P i → Q (change s leader i true c)) :
    Triple (startRules s) script (Holds P) (ask c) (fun _ => Holds Q) := by
  refine triple_perform fun scene raw a happened before _ => ?_
  have effect : ((startRules s).effect scene.world c (.ok a) happened).instance_ =
      change s scene.world.leader scene.world.instance_ true c := by
    simp only [startRules]
    split
    · exact absurd rfl known
    · rfl
    · rename_i contra
      cases contra
  rw [Holds,Scene.after,effect]
  exact brings _ _ before

/-- The roles and the users of the instance. -/
def Authorised (i : Instance) : Prop :=
  i.dataFiles = true ∧ i.routerRole = true ∧ i.authRoles = true ∧ i.backupUser = true ∧ i.monitorUser = true

theorem authorised_roles : Triple (startRules s) script (Holds fun i => i.dataFiles = true)
    (LifecycleManager.createSystemRoles rolenameRouter)
    (fun _ => Holds fun i => i.dataFiles = true ∧ i.routerRole = true ∧ i.authRoles = true) := by
  have router : Triple (startRules s) script (Holds fun i => i.dataFiles = true)
      (InstanceClient.createRouterRole rolenameRouter)
      (fun _ => Holds fun i => i.dataFiles = true ∧ i.routerRole = true) := by
    refine triple_bind (holds_ask nofun fun i leader before => ?_) fun _ => triple_ret fun _ holds => holds
    simp [change,before]
  refine triple_bind router fun _ => triple_bind (holds_ask nofun fun i leader before => ?_) fun _ =>
    triple_ret fun _ holds => holds
  simp [change,before]

theorem authorised_users (backups monitor : String) : Triple (startRules s) script
    (Holds fun i => i.dataFiles = true ∧ i.routerRole = true ∧ i.authRoles = true)
    (LifecycleManager.createSystemUsers
      [⟨usernameBackups,backups,[rolenameBackups]⟩,⟨usernameMonitor,monitor,[rolenameMonitor]⟩])
    (fun _ => Holds Authorised) := by
  have first : Triple (startRules s) script
      (Holds fun i => i.dataFiles = true ∧ i.routerRole = true ∧ i.authRoles = true)
      (InstanceClient.createUser usernameBackups backups [rolenameBackups])
      (fun _ => Holds fun i => i.dataFiles = true ∧ i.routerRole = true ∧ i.authRoles = true ∧ i.backupUser = true) := by
    refine holds_ask nofun fun i leader before => ?_
    simp [change,before]
  have second : Triple (startRules s) script
      (Holds fun i => i.dataFiles = true ∧ i.routerRole = true ∧ i.authRoles = true ∧ i.backupUser = true)
      (InstanceClient.createUser usernameMonitor monitor [rolenameMonitor])
      (fun _ => Holds Authorised) := by
    refine holds_ask nofun fun i leader before => ?_
    have other : usernameMonitor ≠ usernameBackups := by decide
    simp [change,Authorised,other,before]
  refine triple_bind (holds_frame (keeps_ask id)) fun _ => ?_
  exact triple_bind first fun _ => triple_bind second fun _ => triple_ret fun _ holds => holds

/-- The configuration remembers whether the unit had been told that it is the leader. -/
theorem configured_instance (leader : Bool) (username password : String) : Triple (startRules s) script
    (fun scene => Holds Authorised scene ∧ scene.world.leader = leader)
    (LifecycleManager.configureInstance username password)
    (fun _ => Holds fun i => Authorised i ∧ i.configured = true ∧ i.asLeader = leader) := by
  refine triple_bind (triple_perform fun scene raw a happened before _ => ?_) fun _ => holds_frame (keeps_ask id)
  obtain ⟨authorised,told⟩ := before
  simp only [Holds,Scene.after,startRules,change,told,and_self,and_true]
  exact authorised

theorem recreated_cluster (label : String) : Triple (startRules s) script
    (Holds fun i => Authorised i ∧ i.configured = true ∧ i.asLeader = true)
    (LifecycleManager.recreateCluster label)
    (fun _ => Holds fun i => i.dataFiles = true ∧ i.Ready) := by
  have locks : Triple (startRules s) script (Holds fun i => Authorised i ∧ i.configured = true ∧ i.asLeader = true)
      ClusterClient.initLocksTable
      (fun _ => Holds fun i => Authorised i ∧ i.configured = true ∧ i.asLeader = true) :=
    triple_bind (holds_ask nofun fun _ _ before => before) fun _ => triple_ret fun _ holds => holds
  have cluster : Triple (startRules s) script (Holds fun i => Authorised i ∧ i.configured = true ∧ i.asLeader = true)
      (ClusterClient.create label)
      (fun _ => Holds fun i => (Authorised i ∧ i.configured = true ∧ i.asLeader = true) ∧ i.cluster = true) := by
    refine triple_bind (holds_ask nofun fun i leader before => ?_) fun _ => holds_frame (keeps_ask id)
    exact ⟨before,rfl⟩
  have clusterSet : Triple (startRules s) script
      (Holds fun i => (Authorised i ∧ i.configured = true ∧ i.asLeader = true) ∧ i.cluster = true)
      ClusterSetClient.create (fun _ => Holds fun i => i.dataFiles = true ∧ i.Ready) := by
    refine holds_ask nofun fun i leader before => ?_
    obtain ⟨⟨⟨files,router,auth,backup,monitor⟩,configured,_⟩,cluster⟩ := before
    exact ⟨files,⟨router,auth,backup,monitor,configured⟩,fun _ => ⟨cluster,rfl⟩⟩
  exact triple_bind locks fun _ => triple_bind cluster fun _ => triple_bind clusterSet fun _ =>
    holds_frame (keeps_ask id)

/-- A set-up that returns leaves an instance that is set up. -/
theorem ready_finishSetup (charm : Charm) (passwords : Passwords) (operator : String) :
    Triple (startRules s) script (Holds fun i => i.dataFiles = true) (finishSetup charm passwords operator)
      (fun _ => Holds fun i => i.dataFiles = true ∧ i.Ready) := by
  refine triple_bind (holds_frame (keeps_setOperatorUser _ _ _)) fun _ => ?_
  refine triple_bind (holds_frame (keeps_start _)) fun _ => triple_bind (holds_frame keeps_initServerService) fun _ => ?_
  refine triple_bind authorised_roles fun _ => ?_
  refine triple_bind (holds_frame (avoids_passwordAt _ _)) fun backups => ?_
  refine triple_bind (holds_frame (avoids_passwordAt _ _)) fun monitor => ?_
  refine triple_bind (authorised_users backups monitor) fun _ => ?_
  refine triple_bind (holds_frame (avoids_passwordAt _ _)) fun replication => ?_
  have told : Triple (startRules s) script (Holds Authorised) isLeader
      (fun leader scene => Holds Authorised scene ∧ scene.world.leader = leader) := by
    refine triple_perform fun scene raw leader happened before _ => ?_
    exact ⟨before,rfl⟩
  refine triple_bind told fun leader => ?_
  cases leader with
  | true => exact triple_bind (configured_instance true _ _) fun _ => recreated_cluster _
  | false =>
    refine triple_mono (configured_instance false _ _) (fun _ before => before) fun _ scene after => ?_
    obtain ⟨⟨files,router,auth,backup,monitor⟩,configured,follower⟩ := after
    exact ⟨files,⟨router,auth,backup,monitor,configured⟩,fun leads => by rw [follower] at leads; cases leads⟩

end

/-! ### The attempts -/

section
variable (charm : Charm) (script : Attempt)

/-- What holds between the attempts: an instance with data files is set up. -/
def Instance.Sound (i : Instance) : Prop := i.dataFiles = true → i.Ready

/-- An attempt keeps the instance as it is in the parts that do not touch it. -/
theorem attempt_keeps {α : Type} {p : Hook α} (keeps : Avoids Touches p) (scene : Scene Machine Call) :
    (attempt charm script p scene).2.world.instance_ = scene.world.instance_ :=
  run_keeps (startRules charm.substrate) script Machine.instance_
    (fun m _ r happened other => touches_effect m other r happened) keeps scene

/-- The instance is found initialised if it has data files. -/
theorem found_initialised (i : Instance) (s t : Substrate) : Triple (startRules s) script (Holds fun j => j = i)
    (ServerService.initialized t) (fun found _ => found = true → i.dataFiles = true) := by
  have files : Triple (startRules s) script (Holds fun j => j = i) (ServerService.hasDataFiles t)
      (fun found _ => found = true → i.dataFiles = true) := by
    refine triple_bind (Q := fun text _ => text.length > 0 → i.dataFiles = true) (triple_perform ?_) fun text =>
      triple_ret fun _ known found => known (by simpa using found)
    intro scene raw text happened before answered long
    rcases raw with e | raw
    · cases answered
    · have text : (if scene.world.instance_.dataFiles then "mysql.ibd" else "") = text := Except.ok.inj answered
      rw [Holds] at before
      rw [before] at text
      cases found : i.dataFiles with
      | true => rfl
      | false => rw [found] at text; rw [← text] at long; exact absurd long (by decide)
  cases t with
  | vm => exact files
  | k8s =>
    refine triple_bind (holds_frame (keeps_ask id)) fun connected => ?_
    cases connected with
    | true => exact files
    | false => exact triple_ret fun _ _ found => nomatch found

theorem startServerService_eq (passwords : Passwords) : startServerService charm passwords =
    (do
      if ← ServerService.initialized charm.substrate then
        ServerService.start charm.substrate
        initServerService
      else do
        let operator ← passwordAt passwords passwordKeyOperator
        ServerService.resetDirectories charm.substrate
        ServerService.initDirectories charm.substrate
        finishSetup charm passwords operator) := by
  simp only [startServerService,ServerService.setup,finishSetup,bind_assoc]

/-- The set-up of an instance keeps it sound, and leaves data files when it returns. -/
theorem setup_step (passwords : Passwords) (operator : String) (s : Scene Machine Call) (sound : s.world.instance_.Sound)
    (sets : match attempt charm script (ServerService.resetDirectories charm.substrate) s with
      | (.error _,s₂) => s₂.world.instance_.dataFiles = true → s₂.world.instance_ = s.world.instance_
      | (.ok _,s₂) => ∀ r s₃, attempt charm script (ServerService.initDirectories charm.substrate) s₂ = (r,s₃) →
        s₃.world.instance_.dataFiles = true →
          r = .ok () ∧ (attempt charm script (finishSetup charm passwords operator) s₃).1 = .ok ())
    (r : Except Exn Unit) (s' : Scene Machine Call)
    (ran : attempt charm script (do
      ServerService.resetDirectories charm.substrate
      ServerService.initDirectories charm.substrate
      finishSetup charm passwords operator) s = (r,s')) :
    s'.world.instance_.Sound ∧ (r = .ok () → s'.world.instance_.dataFiles = true) := by
  unfold attempt at *
  rw [run_bind] at ran
  rcases resets : run (respond (startRules charm.substrate) script) (ServerService.resetDirectories charm.substrate) s
    with ⟨e | u,s₂⟩ <;> rw [resets] at sets ran
  · cases ran
    refine ⟨fun files => ?_,nofun⟩
    have same := sets files
    rw [same] at files ⊢
    exact sound files
  simp only [run_bind] at ran
  rcases inits : run (respond (startRules charm.substrate) script) (ServerService.initDirectories charm.substrate) s₂
    with ⟨e | u,s₃⟩ <;> rw [inits] at ran
  · cases ran
    exact ⟨fun files => absurd (sets _ _ inits files).1 nofun,nofun⟩
  have brings : Triple (startRules charm.substrate) script (Holds fun _ => True)
      (ServerService.initDirectories charm.substrate) (fun _ => Holds fun i => i.dataFiles = true) :=
    triple_bind (holds_ask nofun fun _ _ _ => rfl) fun _ => triple_ret fun _ holds => holds
  have files : s₃.world.instance_.dataFiles = true := brings s₂ u s₃ trivial inits
  obtain ⟨_,returns⟩ := sets _ _ inits files
  simp only at ran
  rw [ran] at returns
  have ready := ready_finishSetup charm passwords operator s₃ () s' files (by rw [ran,← returns])
  exact ⟨fun _ => ready.2,fun _ => ready.1⟩

/-- The start of the server keeps the instance sound, and leaves data files when it
    returns. -/
theorem server_step (passwords : Passwords) (s : Scene Machine Call) (sound : s.world.instance_.Sound)
    (sets : SetsUp charm script passwords s) (r : Except Exn Unit) (s' : Scene Machine Call)
    (ran : attempt charm script (startServerService charm passwords) s = (r,s')) :
    s'.world.instance_.Sound ∧ (r = .ok () → s'.world.instance_.dataFiles = true) := by
  have kept := attempt_keeps charm script (keeps_initialized charm.substrate) s
  unfold SetsUp at sets
  rw [startServerService_eq] at ran
  unfold attempt at *
  rw [run_bind] at ran
  rcases looks : run (respond (startRules charm.substrate) script) (ServerService.initialized charm.substrate) s
    with ⟨e | found,s₁⟩ <;> rw [looks] at ran kept sets <;> simp only at ran kept sets
  · cases ran
    exact ⟨by rw [kept]; exact sound,nofun⟩
  cases found with
  | true =>
    have files := found_initialised script s.world.instance_ charm.substrate charm.substrate s true s₁ rfl looks rfl
    have same := attempt_keeps charm script (avoids_bind (keeps_start charm.substrate) fun _ => keeps_initServerService) s₁
    simp only [if_true] at ran
    rw [show attempt charm script _ s₁ = _ from ran,kept] at same
    simp only at same
    rw [same]
    exact ⟨sound,fun _ => files⟩
  | false =>
    rw [kept.symm] at sound
    simp only [Bool.false_eq_true,if_false] at ran
    cases password : passwords.lookup passwordKeyOperator with
    | none =>
      simp only [passwordAt,password] at ran
      cases ran
      exact ⟨sound,nofun⟩
    | some operator =>
      simp only [passwordAt,password] at ran
      exact setup_step charm script passwords operator s₁ sound (sets operator password) r s' ran

/-- Without passwords, the event is deferred. -/
theorem deferred_beforeStart : Triple (startRules charm.substrate) script (fun _ => True) (beforeStart charm)
    (fun ready s => ready = none → Call.defer ∈ s.log) := by
  have defers : Triple (startRules charm.substrate) script (fun _ => True)
      (do ask .defer; pure none : Hook (Option Passwords)) (fun ready s => ready = none → Call.defer ∈ s.log) := by
    refine triple_bind (Q := fun _ s => Call.defer ∈ s.log) (triple_perform fun s _ _ _ _ _ => ?_) fun _ =>
      triple_ret fun _ logged _ => logged
    simp [Scene.after]
  refine triple_bind (triple_any _) fun ready => ?_
  split
  · refine triple_bind (triple_any _) fun passwords => ?_
    split
    · exact defers
    · refine triple_bind (triple_any _) fun leader => triple_bind (triple_any _) fun served => ?_
      split
      · exact triple_bind (triple_any _) fun _ => triple_ret fun _ _ same => nomatch same
      · exact triple_bind (triple_any _) fun _ => defers
  · exact defers

/-- An attempt keeps the instance sound, and one that starts the unit leaves data
    files. -/
theorem start_step (m : Machine) (sound : m.instance_.Sound) (uninterrupted : Uninterrupted charm script m) :
    (start charm script m).2.world.instance_.Sound ∧
      (Started charm script m → (start charm script m).2.world.instance_.dataFiles = true) := by
  have kept := attempt_keeps charm script (keeps_beforeStart charm) ⟨m,[]⟩
  have deferred := deferred_beforeStart charm script ⟨m,[]⟩
  have ran : start charm script m = _ := run_bind (respond (startRules charm.substrate) script) (beforeStart charm) _ ⟨m,[]⟩
  unfold Started
  unfold Uninterrupted play at uninterrupted
  unfold attempt at kept
  rw [ran]
  rcases before : run (respond (startRules charm.substrate) script) (beforeStart charm) ⟨m,[]⟩ with ⟨e | ready,s⟩ <;>
    rw [before] at kept uninterrupted <;> simp only at kept uninterrupted
  · exact ⟨by rw [kept]; exact sound,fun started => nomatch started.1⟩
  rcases ready with _ | passwords
  · refine ⟨?_,fun started => ?_⟩
    · show s.world.instance_.Sound
      rw [kept]
      exact sound
    exact absurd (deferred none s trivial before rfl) started.2
  rw [← kept] at sound
  simp only [run_bind]
  rcases serves : run (respond (startRules charm.substrate) script) (startServerService charm passwords) s
    with ⟨e | u,s'⟩
  · exact ⟨(server_step charm script passwords s sound uninterrupted _ _ serves).1,fun started => nomatch started.1⟩
  obtain ⟨sound',files⟩ := server_step charm script passwords s sound uninterrupted _ _ serves
  have rest := attempt_keeps charm script
    (avoids_bind (keeps_startExporterService charm passwords) fun _ => keeps_updateState) s'
  unfold attempt at rest
  rw [run_bind] at rest
  simp only
  rw [rest]
  exact ⟨sound',fun _ => files rfl⟩

/-- An attempt up to the end of its set-up of the server. -/
def upToServer : Hook Unit := do
  match ← beforeStart charm with
  | none => pure ()
  | some passwords => startServerService charm passwords

/-- An attempt that gets past the start of its server is not interrupted. -/
theorem uninterrupted_of_serves (m : Machine)
    (serves : (play (startRules charm.substrate) script (upToServer charm) m).1 = .ok ()) :
    Uninterrupted charm script m := by
  obtain ⟨ready,s,before,serves⟩ := (run_bind_ok_iff _ (beforeStart charm) _ _ _).mp serves
  unfold Uninterrupted play
  rw [before]
  rcases ready with _ | passwords
  · trivial
  simp only [startServerService_eq] at serves
  obtain ⟨found,s₁,looks,rest⟩ := (run_bind_ok_iff _ _ _ _ _).mp serves
  unfold SetsUp attempt
  simp only [looks]
  cases found with
  | true => trivial
  | false =>
    intro operator password
    simp only [Bool.false_eq_true,if_false] at rest
    obtain ⟨_,_,known,rest⟩ := (run_bind_ok_iff _ (passwordAt passwords passwordKeyOperator) _ _ _).mp rest
    rw [passwordAt,password] at known
    cases known
    obtain ⟨_,s₂,resets,rest⟩ := (run_bind_ok_iff _ _ _ _ _).mp rest
    obtain ⟨_,s₃,inits,rest⟩ := (run_bind_ok_iff _ _ _ _ _).mp rest
    rw [resets]
    intro r s' same _
    rw [inits] at same
    cases same
    exact ⟨rfl,rest⟩

end

/-- In every run of attempts that meet the condition, each attempt that starts the
    unit leaves a complete instance. -/
theorem consistent_of_meets (charm : Charm) (attempts : List Attempt) (leader : Bool)
    (meets : AllMeet charm attempts ⟨fresh,leader⟩) : Consistent charm attempts ⟨fresh,leader⟩ := by
  have all : ∀ (attempts : List Attempt) (m : Machine), m.instance_.Sound → AllMeet charm attempts m →
      Consistent charm attempts m := by
    intro attempts
    induction attempts with
    | nil => exact fun _ _ _ => trivial
    | cons script rest ih =>
      intro m sound meets
      obtain ⟨⟨uninterrupted,leads⟩,later⟩ := meets
      obtain ⟨sound',files⟩ := start_step charm script m sound uninterrupted
      refine ⟨fun started => ?_,ih _ sound' later⟩
      obtain ⟨provisioned,cluster⟩ := sound' (files started)
      exact ⟨provisioned,fun leader => cluster (leads started leader)⟩
  exact all attempts _ nofun meets

/-- Every call succeeds, and the secret holds all the passwords. -/
def smoothScript : Attempt where
  reply c _ := match c with
    | .isLeader => .ok true
    | .snapPresent => .ok true
    | .peekContent _ => .ok (usernameToPasswordKey.map (fun entry => (entry.2,"password")))
    | _ => .ok default
  takesEffect _ _ := false

/-- The creation of the roles fails. -/
def interruptedScript : Attempt where
  reply c n := match c with
    | .executeSql .own .instanceAuthRoles => .error ⟨.executionError,"Lost connection to MySQL server"⟩
    | c => smoothScript.reply c n
  takesEffect _ _ := false

/-- The server is set up, and the exporter does not start. -/
def falteringScript : Attempt where
  reply c n := match c with
    | .snapStart service => if service = ExporterService.name then .error ⟨.snapError,"Service exited"⟩ else .ok ()
    | c => smoothScript.reply c n
  takesEffect _ _ := false

def firstUnit : Charm := ⟨.vm,"mysql",0,"cluster","10.0.0.10"⟩

/-- An instance that a leader has set up. -/
def completed : Instance := ⟨true,true,true,true,true,true,true,true,true⟩

theorem faltering_ends : (start firstUnit falteringScript ⟨fresh,true⟩).1 = .error ⟨.snapError,"Service exited"⟩ ∧
    (start firstUnit falteringScript ⟨fresh,true⟩).2.world = ⟨completed,true⟩ := by decide +kernel

theorem consistent_retried : Consistent firstUnit [falteringScript,smoothScript] ⟨fresh,true⟩ := by
  obtain ⟨fails,leaves⟩ := faltering_ends
  have faltering : Meets firstUnit falteringScript ⟨fresh,true⟩ :=
    ⟨uninterrupted_of_serves _ _ _ (by decide +kernel),fun started => absurd started.1 (by rw [fails]; nofun)⟩
  have smooth : Meets firstUnit smoothScript (start firstUnit falteringScript ⟨fresh,true⟩).2.world := by
    rw [leaves]
    exact ⟨uninterrupted_of_serves _ _ _ (by decide +kernel),fun _ _ => by decide +kernel⟩
  exact consistent_of_meets firstUnit [falteringScript,smoothScript] true ⟨faltering,smooth,trivial⟩

/-- After an attempt that fails once the server is initialised, the next one
    starts the unit without its users and its cluster. -/
theorem interrupted_incomplete : ¬ Consistent firstUnit [interruptedScript,smoothScript] ⟨fresh,true⟩ := by
  rintro ⟨_,complete,_⟩
  have started : Started firstUnit smoothScript (start firstUnit interruptedScript ⟨fresh,true⟩).2.world := by
    constructor
    · decide +kernel
    · decide +kernel
  have auth := (complete started).1.2.1
  revert auth
  decide +kernel

end MysqlOperators.FirstStart
