import MysqlOperators.Bootstrap
import MysqlOperators.Cluster

/-!
The password of the monitoring user. Every unit configures its exporter with the password
that its start hook finds in the secret of the application; a set-password action on the
leader writes another one to the secret, which Juju commits when the action has ended, and
configures the exporter of the leader.
-/
namespace MysqlOperators.ExporterCredentials
open MysqlOperators.Program MysqlOperators.Program.Prog MysqlOperators.External MysqlOperators.Clients
open MysqlOperators.Workload MysqlOperators.Helpers MysqlOperators.Lifecycle MysqlOperators.Cluster
open MysqlOperators.FirstStart (avoids_passwordAt furnishes avoids_startServer avoids_initServerService
  avoids_dataFiles avoids_setOperatorUser avoids_setUnitStatus avoids_updateState)
open MysqlOperators.Interleaving Contract.Local
open MysqlOperators.Bootstrap (Application pair)
open Function (update update_self update_of_ne)

/-! ### The application -/

inductive Job where
  | start
  /-- The set-password action for the monitoring user. -/
  | setPassword (password : String)
deriving DecidableEq, Repr

/-- The monitoring password in the content of the secret. -/
def monitorPassword (content : Databag) : Option String := content.lookup passwordKeyMonitor

/-- A hook or an action that has not ended: whether it is a start hook, the password that
    this one has read, and what it has written to the secret. -/
structure Pending where
  starting : Bool
  read : Option (Option String)
  staged : Option Databag

def Pending.none : Pending := ⟨false,.none,.none⟩

/-- The leader, the secret, the hooks of the units, and the password that the exporter of
    each unit is configured with. -/
structure World where
  leader : Option UnitId
  secret : Databag
  hook : UnitId → Pending
  exporter : UnitId → Option String

inductive Act where
  | elect (leader : Option UnitId)
deriving DecidableEq, Repr

namespace World

/-- The leader alone may write to the secret. -/
def answer (w : World) (u : UnitId) : (c : Call) → Except Exn (Reply c) → Except Exn (Reply c)
  | .isLeader, .ok _ => .ok (w.leader == some u)
  | .peekContent _, .ok _ => .ok ((w.hook u).staged.getD w.secret)
  | .setContent _ _, .ok _ => if w.leader = some u then .ok () else .error ⟨.modelError,"permission denied"⟩
  | _, r => r

def stage (w : World) (u : UnitId) (content : Databag) : World :=
  { w with hook := update w.hook u { w.hook u with staged := some content } }

def configure (w : World) (u : UnitId) (password : Option String) : World :=
  { w with exporter := update w.exporter u password }

/-- The settings of the snap, or the file that the layer of the service is made of. -/
def effect (w : World) (u : UnitId) (c : Call) (r : Except Exn (Reply c)) (happened : Bool) : World :=
  match c,r with
  | .peekContent _, .ok content =>
    if (w.hook u).starting then
      { w with hook := update w.hook u { w.hook u with read := some (monitorPassword content) } }
    else w
  | .setContent _ content, .ok _ => w.stage u content
  | .setContent _ content, .error _ => if happened then w.stage u content else w
  | .snapSet _ password, .ok _ => w.configure u (some password)
  | .snapSet _ password, .error _ => if happened then w.configure u (some password) else w
  | .writeJson _ content, .ok _ => w.configure u (content.lookup "password")
  | .writeJson _ content, .error _ => if happened then w.configure u (content.lookup "password") else w
  | _, _ => w

/-- What a hook that has succeeded has written to the secret is committed if its unit
    still leads. -/
def finish (w : World) (u : UnitId) (_ : Job) (r : Except Exn Unit) : World :=
  { w with
    secret := if r = .ok () ∧ w.leader = some u then (w.hook u).staged.getD w.secret else w.secret
    hook := update w.hook u .none }

def act (w : World) : Act → World
  | .elect leader => { w with leader := leader }

end World

namespace Application
variable (app : Application)

def program (u : UnitId) : Job → Hook Unit
  | .start => onStart (app.charm u)
  | .setPassword password => onSetPassword (app.charm u) usernameMonitor password

/-- A job begins once the last one is over. -/
def begin_ (w : World) (u : UnitId) (job : Job) : Option World :=
  if u ∈ app.units ∧ (w.hook u).staged = none then
    some { w with hook := update w.hook u { Pending.none with starting := job == .start } }
  else none

def system : System UnitId Job Call Reply Exn Unit World Act where
  program := program app
  answer := World.answer
  effect := World.effect
  begin_ := begin_ app
  finish := World.finish
  act := World.act

end Application

/-- No exporter has been configured. -/
def before (leader : Option UnitId) (secret : Databag) : World := ⟨leader,secret,fun _ => .none,fun _ => none⟩

/-- Every exporter that is configured has the password of the secret. -/
def Follows (w : World) : Prop := ∀ u password, w.exporter u = some password → monitorPassword w.secret = some password

/-- Every unit has handled its events. -/
def Settled (app : Application) (s : State UnitId Job Call Reply Exn Unit World) : Prop :=
  ∀ u ∈ app.units, s.running u = none

/-- The other units have not configured another password, and no start hook of theirs has
    read another one. -/
def World.alone (app : Application) (w : World) (u : UnitId) (content : Databag) : Bool :=
  app.units.all fun v => v == u ||
    ((w.exporter v).all (fun password => some password == monitorPassword content) &&
      (w.hook v).read.all (fun password => password == monitorPassword content))

/-- No action has written another password to the secret. -/
def World.unwritten (app : Application) (w : World) : Bool :=
  app.units.all fun v => (w.hook v).staged.all fun content => monitorPassword content == monitorPassword w.secret

/-- When an action writes a password, no other unit uses or is about to use another one,
    and from then to its end no start hook reads the old one, nothing raises, and its unit
    stays the leader. -/
def undisturbed (app : Application) : Condition UnitId Call Reply Exn World Act where
  call w u c r happened :=
    match c,r with
    | .peekContent _, .ok _ => !(w.hook u).starting || w.unwritten app
    | .setContent _ content, .ok _ => w.alone app u content
    | .setContent _ _, .error _ => !happened
    | .snapPresent, .ok found => (w.hook u).staged.isNone || found
    | _, .error _ => (w.hook u).staged.isNone
    | _, _ => true
  act w a :=
    match a with
    | .elect leader => app.units.all fun v => (w.hook v).staged.isNone || leader == some v

/-! ### The invariant -/

section
variable (app : Application)

structure Inv (w : World) : Prop where
  outside : ∀ u, u ∉ app.units → w.exporter u = none ∧ (w.hook u).read = none ∧ (w.hook u).staged = none
  leads : ∀ u content, (w.hook u).staged = some content → w.leader = some u
  read : ∀ u password, (w.hook u).read = some password → password = monitorPassword w.secret
  configured : ∀ u password, w.exporter u = some password → monitorPassword w.secret = some password ∨
    ∃ content, (w.hook u).staged = some content ∧ monitorPassword content = some password
  ahead : ∀ u content, (w.hook u).staged = some content → ∀ v, v ≠ u →
    (∀ password, w.exporter v = some password → monitorPassword content = some password) ∧
    ∀ password, (w.hook v).read = some password → password = monitorPassword content

structure Own where
  hook : Pending
  exporter : Option String

def own (u : UnitId) (w : World) : Own := ⟨w.hook u,w.exporter u⟩

def contract : Contract UnitId Call Reply Exn World Act where
  condition := undisturbed app
  inv := Inv app
  guarantee u w w' := ∀ v, v ≠ u → own v w' = own v w
  environment w w' := ∀ v, own v w' = own v w
  safe _ _ _ := True

/-- What a job owes: it has written nothing, or its exporter has the password that it
    has written, and it returns. -/
def Paid (r : Except Exn Unit) (o : Own) : Prop := ∀ content, o.hook.staged = some content →
  r = .ok () ∧ ∀ password, o.exporter = some password → monitorPassword content = some password

def duties : Contract.Duties UnitId Job Exn Unit World where
  starts u job w := u ∈ app.units ∧ (own u w).hook = { Pending.none with starting := job == .start }
  ends u _ r w := Paid r (own u w)

variable {app} {u : UnitId} {w : World}

theorem own_effect (w : World) (c : Call) (r : Except Exn (Reply c)) (happened : Bool) {v : UnitId} (other : v ≠ u) :
    own v (w.effect u c r happened) = own v w := by
  unfold World.effect
  split <;> try split
  all_goals simp [own,World.stage,World.configure,update_of_ne other]

/-- Two hooks cannot both have written to the secret. -/
theorem one_writer (inv : Inv app w) {v : UnitId} {content content' : Databag}
    (staged : (w.hook u).staged = some content) (staged' : (w.hook v).staged = some content') : v = u := by
  have mine := inv.leads u content staged
  rw [inv.leads v content' staged'] at mine
  exact Option.some.inj mine

/-- A start hook reads the secret while no action has written another password to it. -/
theorem inv_read (inv : Inv app w) (member : u ∈ app.units) (staged : (w.hook u).staged = none)
    (unwritten : w.unwritten app = true) :
    Inv app { w with hook := update w.hook u { w.hook u with read := some (monitorPassword w.secret) } } := by
  have same (v : UnitId) : (update w.hook u { w.hook u with read := some (monitorPassword w.secret) } v).staged =
      (w.hook v).staged := by
    by_cases own : v = u
    · rw [own,update_self]
    · rw [update_of_ne own]
  refine ⟨fun v outside => ?_,fun v content now => ?_,fun v password now => ?_,fun v password now => ?_,
    fun v content now x other => ?_⟩
  · have own : v ≠ u := by
      rintro rfl
      exact outside member
    simp only [update_of_ne own]
    exact inv.outside v outside
  · simp only [same] at now
    exact inv.leads v content now
  · by_cases own : v = u
    · simp only [own,update_self,Option.some.injEq] at now
      exact now.symm
    · simp only [update_of_ne own] at now
      exact inv.read v password now
  · simp only [same]
    exact inv.configured v password now
  · simp only [same] at now
    obtain ⟨exporters,reads⟩ := inv.ahead v content now x other
    refine ⟨exporters,fun password read => ?_⟩
    by_cases own : x = u
    · simp only [own,update_self,Option.some.injEq] at read
      have inside : v ∈ app.units := by
        by_contra out
        rw [(inv.outside v out).2.2] at now
        cases now
      have equal := List.all_eq_true.mp unwritten v inside
      rw [now] at equal
      rw [← read]
      exact (beq_iff_eq.mp equal).symm
    · simp only [update_of_ne own] at read
      exact reads password read

/-- The leader writes a password to the secret when the other units use no other one. -/
theorem inv_stage (inv : Inv app w) (member : u ∈ app.units) (leads : w.leader = some u)
    (before : (w.hook u).staged = none) {content : Databag} (alone : w.alone app u content = true) :
    Inv app (w.stage u content) := by
  have others {v : UnitId} (other : v ≠ u) : (∀ password, w.exporter v = some password →
      monitorPassword content = some password) ∧
      ∀ password, (w.hook v).read = some password → password = monitorPassword content := by
    by_cases inside : v ∈ app.units
    · have apart := List.all_eq_true.mp alone v inside
      have different : (v == u) = false := beq_false_of_ne other
      rw [different,Bool.false_or,Bool.and_eq_true] at apart
      refine ⟨fun password uses => ?_,fun password read => ?_⟩
      · have equal := apart.1
        rw [uses] at equal
        exact (beq_iff_eq.mp equal).symm
      · have equal := apart.2
        rw [read] at equal
        exact beq_iff_eq.mp equal
    · obtain ⟨exporter,read,_⟩ := inv.outside v inside
      rw [exporter,read]
      exact ⟨nofun,nofun⟩
  refine ⟨fun v outside => ?_,fun v content' now => ?_,fun v password now => ?_,fun v password now => ?_,
    fun v content' now x other => ?_⟩
  · have own : v ≠ u := by
      rintro rfl
      exact outside member
    simp only [World.stage,update_of_ne own]
    exact inv.outside v outside
  · by_cases own : v = u
    · rw [own]
      exact leads
    · simp only [World.stage,update_of_ne own] at now
      exact inv.leads v content' now
  · by_cases own : v = u
    · simp only [World.stage,own,update_self] at now
      exact inv.read u password now
    · simp only [World.stage,update_of_ne own] at now
      exact inv.read v password now
  · rcases inv.configured v password now with current | ⟨content',staged,matches_⟩
    · exact .inl current
    · have own : v ≠ u := by
        rintro rfl
        rw [before] at staged
        cases staged
      simp only [World.stage,update_of_ne own]
      exact .inr ⟨content',staged,matches_⟩
  · by_cases own : v = u
    · subst own
      simp only [World.stage,update_self,Option.some.injEq] at now
      subst now
      simp only [World.stage,update_of_ne other]
      exact others other
    · simp only [World.stage,update_of_ne own] at now
      have mine := inv.leads v content' now
      rw [leads] at mine
      exact absurd (Option.some.inj mine).symm own

/-- A unit configures its exporter with the password that it has read, or has written. -/
theorem inv_configure (inv : Inv app w) (member : u ∈ app.units) {password : String}
    (known : (w.hook u).read = some (some password) ∧ (w.hook u).staged = none ∨
      ∃ content, (w.hook u).staged = some content ∧ monitorPassword content = some password) :
    Inv app (w.configure u (some password)) := by
  refine ⟨fun v outside => ?_,inv.leads,inv.read,fun v password' now => ?_,fun v content now x other => ?_⟩
  · have own : v ≠ u := by
      rintro rfl
      exact outside member
    simp only [World.configure,update_of_ne own]
    exact inv.outside v outside
  · by_cases own : v = u
    · subst own
      simp only [World.configure,update_self,Option.some.injEq] at now
      subst now
      rcases known with ⟨read,_⟩ | written
      · exact .inl (inv.read v _ read).symm
      · exact .inr written
    · simp only [World.configure,update_of_ne own] at now
      exact inv.configured v password' now
  · obtain ⟨exporters,reads⟩ := inv.ahead v content now x other
    refine ⟨fun password' uses => ?_,reads⟩
    by_cases own : x = u
    · subst own
      simp only [World.configure,update_self,Option.some.injEq] at uses
      subst uses
      rcases known with ⟨read,_⟩ | ⟨content',staged,_⟩
      · exact (reads _ read).symm
      · exact absurd (one_writer inv now staged) other
    · simp only [World.configure,update_of_ne own] at uses
      exact exporters password' uses

/-- A hook that has written nothing ends, or another one begins. -/
theorem inv_rest (inv : Inv app w) (staged : (w.hook u).staged = none) {p : Pending} (unread : p.read = none)
    (unwritten : p.staged = none) : Inv app { w with hook := update w.hook u p } := by
  have same (v : UnitId) : (update w.hook u p v).staged = (w.hook v).staged := by
    by_cases own : v = u
    · rw [own,update_self,unwritten,staged]
    · rw [update_of_ne own]
  have fewer (v : UnitId) (password : Option String) (now : (update w.hook u p v).read = some password) :
      (w.hook v).read = some password := by
    by_cases own : v = u
    · rw [own,update_self,unread] at now
      cases now
    · rwa [update_of_ne own] at now
  refine ⟨fun v outside => ?_,fun v content now => ?_,fun v password now => inv.read v password (fewer v password now),
    fun v password now => ?_,fun v content now x other => ?_⟩
  · obtain ⟨exporter,read,written⟩ := inv.outside v outside
    refine ⟨exporter,?_,(same v).trans written⟩
    by_contra some_
    obtain ⟨password,now⟩ := Option.ne_none_iff_exists'.mp some_
    rw [fewer v password now] at read
    cases read
  · exact inv.leads v content ((same v).symm.trans now)
  · rcases inv.configured v password now with current | ⟨content,written,matches_⟩
    · exact .inl current
    · exact .inr ⟨content,(same v).trans written,matches_⟩
  · obtain ⟨exporters,reads⟩ := inv.ahead v content ((same v).symm.trans now) x other
    exact ⟨exporters,fun password now => reads password (fewer x password now)⟩

/-- The password that an action has written is committed. -/
theorem inv_commit (inv : Inv app w) {content : Databag} (staged : (w.hook u).staged = some content)
    (uses : ∀ password, w.exporter u = some password → monitorPassword content = some password) :
    Inv app { w with secret := content, hook := update w.hook u .none } := by
  have none_ (v : UnitId) : (update w.hook u .none v).staged = none := by
    by_cases own : v = u
    · rw [own,update_self]
      rfl
    · rw [update_of_ne own]
      by_contra some_
      obtain ⟨content',staged'⟩ := Option.ne_none_iff_exists'.mp some_
      exact own (one_writer inv staged staged')
  refine ⟨fun v outside => ?_,fun v content' now => ?_,fun v password now => ?_,fun v password now => ?_,
    fun v content' now => ?_⟩
  · obtain ⟨exporter,read,_⟩ := inv.outside v outside
    refine ⟨exporter,?_,none_ v⟩
    by_cases own : v = u
    · rw [own]
      simp [Pending.none]
    · simp only [update_of_ne own]
      exact read
  · rw [none_ v] at now
    cases now
  · by_cases own : v = u
    · rw [own] at now
      simp [Pending.none] at now
    · simp only [update_of_ne own] at now
      exact (inv.ahead u content staged v own).2 password now
  · by_cases own : v = u
    · subst own
      exact .inl (uses password now)
    · exact .inl ((inv.ahead u content staged v own).1 password now)
  · rw [none_ v] at now
    cases now

/-! ### What a unit knows -/

variable (app u) in
/-- The knowledge of a unit about its hook and its exporter, for the rules. -/
def view : Contract.Local (contract app) (Application.system app) u Own :=
  owning (Application.system app) (own u) (by
    rintro w w' _ _ (environment | ⟨v,other,guarantee⟩)
    · exact environment u
    · exact guarantee u (Ne.symm other))

variable {P : Own → Prop}

theorem goes_call {c : Call} {Q : Except Exn (Reply c) → Own → Prop}
    (learns : ∀ w raw happened, Inv app w → P (own u w) →
      (undisturbed app).call w u c (w.answer u c raw) happened = true →
      Inv app (w.effect u c (w.answer u c raw) happened) ∧
        Q (w.answer u c raw) (own u (w.effect u c (w.answer u c raw) happened))) :
    (view app u).Goes (ask c) P Q :=
  goes_perform fun w inv known => ⟨trivial,fun raw happened allowed => by
    obtain ⟨inv',learnt⟩ := learns w raw happened inv known allowed
    exact ⟨inv',fun _ other => own_effect w c _ happened other,learnt⟩⟩

/-- Calls that have to do with the credentials. -/
def concerns : Call → Bool
  | .peekContent _ | .setContent _ _ | .snapSet _ _ | .writeJson _ _ => true
  | _ => false

theorem effect_calm {c : Call} (calm : concerns c = false) (w : World) (r : Except Exn (Reply c)) (happened : Bool) :
    w.effect u c r happened = w := by
  unfold World.effect
  split <;> first | rfl | cases calm

theorem raises_unwritten {c : Call} {e : Exn} {happened : Bool} (allowed : (undisturbed app).call w u c (.error e) happened = true)
    (other : ∀ label content, c ≠ .setContent label content) : (w.hook u).staged = none := by
  simp only [undisturbed] at allowed
  split at allowed
  · contradiction
  · contradiction
  · exact absurd rfl (other _ _)
  · contradiction
  · exact Option.isNone_iff_eq_none.mp allowed
  · rename_i never
    exact absurd rfl (never e)

/-- A call that does not concern them tells the unit nothing, and does not raise once the
    hook has written to the secret. -/
theorem goes_calm {c : Call} (calm : concerns c = false) :
    (view app u).Goes (ask c) P (fun r o => (o.hook.staged ≠ none → ∃ a, r = .ok a) ∧ P o) := by
  refine goes_call fun w raw happened inv known allowed => ?_
  rw [effect_calm calm]
  refine ⟨inv,fun written => ?_,known⟩
  rcases answered : w.answer u c raw with e | a
  · rw [answered] at allowed
    exact absurd (raises_unwritten allowed (by rintro label content rfl; cases calm)) written
  · exact ⟨a,rfl⟩

theorem goes_free {α : Type} {p : Hook α} (calm : Avoids (fun c => concerns c = true) p) :
    (view app u).Goes p P (fun _ => P) := by
  refine goes_frame (fun c other w inv known => ⟨trivial,fun raw happened _ => ?_⟩) calm
  have same (r : Except Exn (Reply c)) : (Application.system app).effect w u c r happened = w :=
    effect_calm (by simpa using other) w r happened
  rw [same]
  exact ⟨inv,fun _ _ => rfl,known⟩

/-! ### The start hook -/

def Calm {α : Type} (p : Hook α) : Prop := Avoids (fun c => concerns c = true) p

theorem calm_of_furnishes (c : Call) (asks : furnishes c = true) : ¬ concerns c = true := by
  unfold furnishes at asks
  split at asks <;> first | contradiction | exact Bool.false_ne_true

theorem calm_shell (command : Command) : Calm (ServerService.shell command) :=
  avoids_bind (Quiet.avoids_ask nofun) fun _ => trivial

theorem calm_setup (s : Substrate) (username password : String) : Calm (ServerService.setup s username password) := by
  refine avoids_bind ?_ fun _ => avoids_bind (calm_shell _) fun _ => avoids_setOperatorUser calm_of_furnishes ..
  cases s with
  | vm => exact avoids_forM (fun _ => avoids_bind (calm_shell _) fun _ => calm_shell _) _
  | k8s => exact avoids_forM (fun _ => calm_shell _) _

theorem calm_configureInstance (username password : String) :
    Calm (LifecycleManager.configureInstance username password) :=
  avoids_bind (Quiet.avoids_ask nofun) fun _ => Quiet.avoids_ask nofun

theorem calm_configureServer (charm : Charm) (passwords : Passwords) : Calm (configureServer charm passwords) := by
  have query (query : Query) : Calm (do let _ ← ask (.executeSql .own query) : Hook Unit) :=
    avoids_bind (Quiet.avoids_ask nofun) fun _ => trivial
  refine avoids_bind (avoids_startServer calm_of_furnishes _) fun _ => ?_
  refine avoids_bind (avoids_initServerService calm_of_furnishes) fun _ => ?_
  refine avoids_bind (avoids_bind (query _) fun _ => query _) fun _ => ?_
  refine avoids_bind (avoids_passwordAt _ _) fun _ => avoids_bind (avoids_passwordAt _ _) fun _ => ?_
  refine avoids_bind (avoids_bind (Quiet.avoids_ask nofun) fun _ => avoids_forM (fun _ => Quiet.avoids_ask nofun) _)
    fun _ => ?_
  refine avoids_bind (avoids_passwordAt _ _) fun _ => avoids_bind (Quiet.avoids_ask nofun) fun _ => ?_
  refine avoids_ite _ (fun _ => ?_) (fun _ => calm_configureInstance _ _)
  refine avoids_bind (calm_configureInstance _ _) fun _ => avoids_bind (query _) fun _ => ?_
  refine avoids_bind (avoids_bind (Quiet.avoids_ask nofun) fun _ => Quiet.avoids_ask nofun) fun _ => ?_
  exact avoids_bind (Quiet.avoids_ask nofun) fun _ => Quiet.avoids_ask nofun

theorem calm_startServerService (charm : Charm) (passwords : Passwords) :
    Calm (startServerService charm passwords) := by
  refine avoids_bind (avoids_dataFiles calm_of_furnishes _) fun _ => avoids_ite _ (fun _ => ?_) (fun _ => ?_)
  · exact avoids_bind (avoids_startServer calm_of_furnishes _) fun _ => avoids_initServerService calm_of_furnishes
  · refine avoids_bind (avoids_passwordAt _ _) fun _ => avoids_bind (calm_setup _ _ _) fun _ => ?_
    exact calm_configureServer charm passwords

theorem calm_getSecret (label : String) : Calm (SecretStore.getSecret label) :=
  avoids_tryExcept (Quiet.avoids_ask nofun) fun _ => trivial

/-- A start hook, which writes nothing to the secret. -/
def Starting (o : Own) : Prop := o.hook.starting = true ∧ o.hook.staged = none

/-- A start hook that has read the passwords. -/
def HasRead (passwords : Passwords) (o : Own) : Prop :=
  Starting o ∧ o.hook.read = some (monitorPassword passwords)

theorem effect_read (w : World) (starting : (w.hook u).starting = true) {label : String} {content : Databag}
    {happened : Bool} : w.effect u (.peekContent label) (.ok content) happened =
      { w with hook := update w.hook u { w.hook u with read := some (monitorPassword content) } } :=
  if_pos starting

theorem goes_fetchPasswords (member : u ∈ app.units) (charm : Charm) :
    (view app u).Goes (fetchPasswords charm) Starting
      (fun r o => Starting o ∧ ∀ passwords, r = .ok passwords → passwords ≠ [] → HasRead passwords o) := by
  have peeks : (view app u).Goes (ask (.peekContent (secretLabel charm))) Starting
      (fun r o => Starting o ∧ ∀ passwords, r = .ok passwords → HasRead passwords o) := by
    refine goes_call fun w raw happened inv known allowed => ?_
    obtain ⟨starting,staged⟩ := known
    have staged : (w.hook u).staged = none := staged
    have starting : (w.hook u).starting = true := starting
    cases raw with
    | error e => exact ⟨inv,⟨starting,staged⟩,nofun⟩
    | ok raw =>
      have answered : w.answer u (.peekContent (secretLabel charm)) (.ok raw) = .ok w.secret := by
        simp only [World.answer,staged,Option.getD_none]
      rw [answered] at allowed ⊢
      have unwritten : w.unwritten app = true := by
        have both : (!(w.hook u).starting || w.unwritten app) = true := allowed
        rwa [starting] at both
      rw [effect_read w starting]
      have now : Starting (own u { w with
          hook := update w.hook u { w.hook u with read := some (monitorPassword w.secret) } }) := by
        simp only [Starting,own,update_self]
        exact ⟨starting,staged⟩
      refine ⟨inv_read inv member staged unwritten,now,fun passwords same => ⟨now,?_⟩⟩
      obtain rfl := Except.ok.inj same
      simp only [own,update_self]
  have reads : (view app u).Goes (SecretStore.getContent (secretLabel charm)) Starting
      (fun r o => Starting o ∧ ∀ passwords, r = .ok passwords → HasRead passwords o) :=
    goes_bind (goes_free (calm_getSecret _)) (fun _ => peeks) (fun _ _ known => ⟨known,nofun⟩)
  refine goes_tryElse reads (fun e _ => ?_) (fun passwords => ?_) (fun _ _ _ known => ⟨known.1,nofun⟩)
  · refine goes_pure fun o known => ⟨known.1,fun passwords same some_ => ?_⟩
    exact absurd (Except.ok.inj same).symm some_
  · exact goes_pure fun o known => ⟨known.1,fun passwords same _ => known.2 passwords (by rw [Except.ok.inj same])⟩

theorem goes_beforeStart (member : u ∈ app.units) (charm : Charm) :
    (view app u).Goes (beforeStart charm) Starting
      (fun r o => Starting o ∧ ∀ passwords, r = .ok (some passwords) → HasRead passwords o) := by
  have defers (p : Hook Unit) (calm : Calm p) : (view app u).Goes
      (do p; ask .defer; pure none : Hook (Option Passwords)) Starting
      (fun r o => Starting o ∧ ∀ passwords, r = .ok (some passwords) → HasRead passwords o) := by
    refine goes_bind (goes_free calm) (fun _ => ?_) (fun _ _ known => ⟨known,nofun⟩)
    refine goes_bind (goes_free (Quiet.avoids_ask nofun)) (fun _ => ?_) (fun _ _ known => ⟨known,nofun⟩)
    exact goes_pure fun _ known => ⟨known,nofun⟩
  have ready : Calm (systemReady charm.substrate) := by
    cases charm.substrate with
    | vm => trivial
    | k8s => exact Quiet.avoids_ask nofun
  have serves : Calm (createAppServices charm) := by
    unfold createAppServices
    split
    · trivial
    · refine avoids_tryElse (avoids_bind (Quiet.avoids_ask nofun) fun _ => Quiet.avoids_ask nofun) (fun _ => trivial) ?_
      exact fun _ => trivial
  refine goes_bind (goes_free ready) (fun isReady => ?_) (fun _ _ known => ⟨known,nofun⟩)
  refine goes_ite _ (fun _ => ?_) (fun _ => defers (pure ()) trivial)
  refine goes_bind (goes_fetchPasswords member charm) (fun passwords => ?_) (fun _ _ known => ⟨known.1,nofun⟩)
  refine goes_ite _ (fun _ => goes_pre (defers (pure ()) trivial) fun _ known => known.1) (fun nonempty => ?_)
  have some_ : passwords ≠ [] := by
    rintro rfl
    exact nonempty rfl
  refine goes_pre ?_ (fun o known => (known.2 passwords rfl some_ : HasRead passwords o))
  refine goes_bind (goes_free (Quiet.avoids_ask nofun)) (fun leader => ?_) (fun _ _ known => ⟨known.1,nofun⟩)
  refine goes_bind (goes_free (avoids_ite _ (fun _ => serves) (fun _ => trivial))) (fun served => ?_)
    (fun _ _ known => ⟨known.1,nofun⟩)
  refine goes_ite _ (fun _ => ?_) (fun _ => ?_)
  · refine goes_bind (goes_free (Quiet.avoids_ask nofun)) (fun _ => ?_) (fun _ _ known => ⟨known.1,nofun⟩)
    refine goes_pure fun o known => ⟨known.1,fun passwords' same => ?_⟩
    obtain rfl := Option.some.inj (Except.ok.inj same)
    exact known
  · exact goes_pre (defers _ (avoids_setUnitStatus calm_of_furnishes _)) fun _ known => known.1

/-! ### The exporter -/

/-- A program that does not raise once the hook has written to the secret. -/
def Sure {α : Type} (app : Application) (u : UnitId) (p : Hook α) (P : Own → Prop) : Prop :=
  (view app u).Goes p P (fun r o => (o.hook.staged ≠ none → ∃ a, r = .ok a) ∧ P o)

theorem sure_bind {α β : Type} {p : Hook α} {f : α → Hook β} (first : Sure app u p P) (rest : ∀ a, Sure app u (f a) P) :
    Sure app u (p >>= f) P := by
  refine goes_bind first (fun a => goes_pre (rest a) fun _ known => known.2) (fun e o known => ⟨fun written => ?_,known.2⟩)
  obtain ⟨_,never⟩ := known.1 written
  cases never

theorem sure_calm {c : Call} (calm : concerns c = false) : Sure app u (ask c) P := goes_calm calm

/-- The snap is there as long as it has to be. -/
theorem goes_present : (view app u).Goes (ask .snapPresent) P (fun r o => (o.hook.staged ≠ none → r = .ok true) ∧ P o) := by
  refine goes_call fun w raw happened inv known allowed => ?_
  rw [effect_calm rfl]
  refine ⟨inv,fun written => ?_,known⟩
  have written : (w.hook u).staged ≠ none := written
  cases raw with
  | error e => exact absurd (raises_unwritten allowed nofun) written
  | ok found =>
    have either : ((w.hook u).staged.isNone || found) = true := allowed
    rcases Bool.or_eq_true_iff.mp either with unwritten | found
    · exact absurd (Option.isNone_iff_eq_none.mp unwritten) written
    · exact congrArg Except.ok found

theorem sure_present {p : Hook Unit} {e : Exn} (sure : Sure app u p P) :
    Sure app u (do if ← ask .snapPresent then p else raise e) P := by
  refine goes_bind goes_present (fun found => ?_) (fun e o known => ⟨fun written => ?_,known.2⟩)
  · refine goes_ite _ (fun _ => goes_pre sure fun _ known => known.2) (fun absent => ?_)
    refine goes_raise fun o known => ⟨fun written => ?_,known.2⟩
    exact absurd (Except.ok.inj (known.1 written)) absent
  · cases known.1 written

theorem sure_start (s : Substrate) : Sure app u (ExporterService.start s) P := by
  cases s with
  | vm => exact sure_present (sure_bind (sure_calm rfl) fun _ => sure_calm rfl)
  | k8s =>
    refine sure_bind (sure_calm rfl) fun _ => sure_bind (sure_calm rfl) fun _ => ?_
    exact sure_bind (sure_calm rfl) fun _ => sure_calm rfl

theorem sure_stop (s : Substrate) : Sure app u (ExporterService.stop s) P := by
  cases s with
  | vm => exact sure_present (sure_calm rfl)
  | k8s => exact sure_bind (sure_calm rfl) fun _ => sure_bind (sure_calm rfl) fun _ => sure_calm rfl

/-- What a hook knows when it configures its exporter with a password. -/
def Means (password : String) (p : Pending) : Prop :=
  p.read = some (some password) ∧ p.staged = none ∨
    ∃ content, p.staged = some content ∧ monitorPassword content = some password

section
variable (member : u ∈ app.units) {F : Pending → Prop} {password : String} (means : ∀ p, F p → Means password p)
include member means

/-- A call that configures the exporter, if it takes effect. -/
theorem goes_configure {c : Call} (other : ∀ label content, c ≠ .setContent label content)
    (effects : ∀ (w : World) r happened, w.effect u c r happened = w.configure u (some password) ∨
      w.effect u c r happened = w ∧ ∃ e, r = .error e) :
    (view app u).Goes (ask c) (fun o => F o.hook) (fun r o =>
      (o.hook.staged ≠ none → (∃ a, r = .ok a) ∧ o.exporter = some password) ∧ F o.hook) := by
  refine goes_call fun w raw happened inv known allowed => ?_
  have returns (written : (w.hook u).staged ≠ none) : ∃ a, w.answer u c raw = .ok a := by
    rcases answered : w.answer u c raw with e | a
    · rw [answered] at allowed
      exact absurd (raises_unwritten allowed other) written
    · exact ⟨a,rfl⟩
  rcases effects w (w.answer u c raw) happened with sets | ⟨same,e,raised⟩
  · rw [sets]
    refine ⟨inv_configure inv member (means _ known),fun written => ⟨returns written,?_⟩,known⟩
    simp only [own,World.configure,update_self]
  · rw [same]
    refine ⟨inv,fun written => ?_,known⟩
    obtain ⟨a,returned⟩ := returns written
    rw [raised] at returned
    cases returned

theorem goes_setup (s : Substrate) (username : String) :
    (view app u).Goes (ExporterService.setup s username password) (fun o => F o.hook) (fun r o =>
      (o.hook.staged ≠ none → (∃ a, r = .ok a) ∧ o.exporter = some password) ∧ F o.hook) := by
  cases s with
  | vm =>
    have sets : (view app u).Goes (ask (.snapSet username password)) (fun o => F o.hook) (fun r o =>
        (o.hook.staged ≠ none → (∃ a, r = .ok a) ∧ o.exporter = some password) ∧ F o.hook) := by
      refine goes_configure member means nofun fun w r happened => ?_
      cases r with
      | ok _ => exact .inl rfl
      | error e =>
        cases happened with
        | true => exact .inl rfl
        | false => exact .inr ⟨rfl,e,rfl⟩
    refine goes_bind goes_present (fun found => ?_) (fun e o known => ⟨fun written => ?_,known.2⟩)
    · refine goes_ite _ (fun _ => goes_pre sets fun _ known => known.2) (fun absent => ?_)
      refine goes_raise fun o known => ⟨fun written => ?_,known.2⟩
      exact absurd (Except.ok.inj (known.1 written)) absent
    · cases known.1 written
  | k8s =>
    refine goes_configure member means nofun fun w r happened => ?_
    cases r with
    | ok _ => exact .inl rfl
    | error e =>
      cases happened with
      | true => exact .inl rfl
      | false => exact .inr ⟨rfl,e,rfl⟩

end

/-! ### The jobs -/

theorem goes_onStart (member : u ∈ app.units) (charm : Charm) :
    (view app u).Goes (onStart charm) Starting (fun _ => Starting) := by
  refine goes_bind (goes_beforeStart member charm) (fun passwords => ?_) (fun _ _ known => known.1)
  cases passwords with
  | none => exact goes_pure fun _ known => known.1
  | some passwords =>
    refine goes_pre ?_ (fun o known => (known.2 passwords rfl : HasRead passwords o))
    refine goes_bind (goes_free (calm_startServerService _ _)) (fun _ => ?_) (fun _ _ known => known.1)
    have exporter : (view app u).Goes (startExporterService charm passwords) (HasRead passwords) (fun _ => Starting) := by
      unfold startExporterService passwordAt
      cases found : passwords.lookup passwordKeyMonitor with
      | none =>
        show (view app u).Goes (raise _) _ _
        exact goes_raise fun _ known => known.1
      | some monitor =>
        let F (p : Pending) : Prop := (p.starting = true ∧ p.staged = none) ∧ p.read = some (some monitor)
        have means (p : Pending) (known : F p) : Means monitor p := .inl ⟨known.2,known.1.2⟩
        have sets := goes_setup member means charm.substrate usernameMonitor
        show (view app u).Goes (do
          ExporterService.setup charm.substrate usernameMonitor monitor
          ExporterService.start charm.substrate) _ _
        refine goes_bind (goes_pre sets fun o known => ?_) (fun _ => ?_) (fun _ _ known => known.2.1)
        · rw [HasRead,monitorPassword,found] at known
          exact known
        · exact goes_post (goes_pre (sure_start _) fun _ known => known.2) fun _ _ known => known.2.1
    exact goes_bind exporter (fun _ => goes_free (avoids_updateState calm_of_furnishes)) (fun _ _ known => known)

/-- An action that has written nothing. -/
def Acting (o : Own) : Prop := o.hook.starting = false ∧ o.hook.staged = none

/-- An action that has written a password to the secret. -/
def Wrote (password : String) (p : Pending) : Prop :=
  ∃ content, p.staged = some content ∧ monitorPassword content = some password

/-- What is left of an action when its attempt to write the password ends. -/
def Attempted (password : String) (r : Except Exn Unit) (o : Own) : Prop :=
  match r with
  | .ok _ => Wrote password o.hook
  | .error _ => Acting o

theorem goes_updatePassword (member : u ∈ app.units) (charm : Charm) (password : String) :
    (view app u).Goes (updatePassword charm passwordKeyMonitor password) Acting
      (Attempted password) := by
  have peeks : (view app u).Goes (ask (.peekContent (secretLabel charm))) Acting (fun _ => Acting) := by
    refine goes_call fun w raw happened inv known allowed => ?_
    have acting : (w.hook u).starting = false := known.1
    have same (r : Except Exn (Reply (.peekContent (secretLabel charm)))) :
        w.effect u (.peekContent (secretLabel charm)) r happened = w := by
      cases r with
      | error e => rfl
      | ok content => exact if_neg (by rw [acting]; exact Bool.false_ne_true)
    rw [same]
    exact ⟨inv,known⟩
  have writes (content : Databag) : (view app u).Goes
      (ask (.setContent (secretLabel charm) (updated content passwordKeyMonitor password))) Acting
      (Attempted password) := by
    refine goes_call fun w raw happened inv known allowed => ?_
    rcases answered : w.answer u (.setContent (secretLabel charm) (updated content passwordKeyMonitor password)) raw
      with e | a
    · -- a write that raises has no effect
      rw [answered] at allowed
      have undone : happened = false := by simpa [undisturbed] using allowed
      rw [undone]
      exact ⟨inv,known⟩
    · have leads : w.leader = some u := by
        cases raw with
        | error e => cases answered
        | ok _ =>
          by_contra other
          rw [World.answer,if_neg other] at answered
          cases answered
      rw [answered] at allowed
      refine ⟨inv_stage inv member leads known.2 allowed,?_⟩
      refine ⟨updated content passwordKeyMonitor password,?_,lookup_updated ..⟩
      simp only [own,World.effect,World.stage,update_self]
  have gets : (view app u).Goes (SecretStore.getContent (secretLabel charm)) Acting (fun _ => Acting) :=
    goes_bind (goes_free (calm_getSecret _)) (fun _ => peeks) (fun _ _ known => known)
  refine goes_bind gets (fun content => ?_) (fun _ _ known => known)
  exact goes_bind (goes_free (calm_getSecret _)) (fun _ => writes content) (fun _ _ known => known)

theorem calm_updateClusterUser (username password : String) : Calm (ClusterManager.updateClusterUser username password) := by
  refine avoids_bind (avoids_bind (Quiet.avoids_ask nofun) fun _ => avoids_ofExcept _) fun host => ?_
  split
  · trivial
  · refine avoids_ite _ (fun _ => trivial) fun _ => avoids_ite _ (fun _ => trivial) fun _ => ?_
    exact Quiet.avoids_ask nofun

theorem paid_of_unwritten {r : Except Exn Unit} {o : Own} (unwritten : o.hook.staged = none) : Paid r o := by
  intro content written
  rw [unwritten] at written
  cases written

theorem goes_onSetPassword (member : u ∈ app.units) (charm : Charm) (password : String) :
    (view app u).Goes (onSetPassword charm usernameMonitor password) Acting Paid := by
  have attempts (password : String) : (view app u).Goes (do
      ClusterManager.updateClusterUser usernameMonitor password
      updatePassword charm passwordKeyMonitor password : Hook Unit) Acting (Attempted password) :=
    goes_bind (goes_free (calm_updateClusterUser _ _)) (fun _ => goes_updatePassword member charm password)
      (fun _ _ known => known)
  have fails (message : String) : (view app u).Goes (ask (.fail message)) Acting Paid :=
    goes_post (goes_free (Quiet.avoids_ask nofun)) fun _ _ known => paid_of_unwritten known.2
  have exporter (password : String) : (view app u).Goes (do
      ExporterService.setup charm.substrate usernameMonitor password
      ExporterService.stop charm.substrate
      ExporterService.start charm.substrate : Hook Unit) (fun o => Wrote password o.hook) Paid := by
    have written {o : Own} (wrote : Wrote password o.hook) : o.hook.staged ≠ none := by
      obtain ⟨content,staged,_⟩ := wrote
      rw [staged]
      exact nofun
    have restarts : Sure app u (do
        ExporterService.stop charm.substrate
        ExporterService.start charm.substrate) (fun o => o.exporter = some password ∧ Wrote password o.hook) :=
      sure_bind (sure_stop _) fun _ => sure_start _
    refine goes_bind (goes_setup member (F := Wrote password) (fun _ => .inr) charm.substrate usernameMonitor)
      (fun _ => ?_) (fun e o known => ?_)
    · refine goes_post (goes_pre restarts fun o known => ⟨(known.1 (written known.2)).2,known.2⟩) fun r o known => ?_
      obtain ⟨returns,uses,wrote⟩ := known
      obtain ⟨a,rfl⟩ := returns (written wrote)
      obtain ⟨content,staged,is_⟩ := wrote
      refine fun content' staged' => ⟨rfl,fun password' uses' => ?_⟩
      rw [staged'] at staged
      rw [uses'] at uses
      rw [Option.some.inj staged,is_,Option.some.inj uses]
    · obtain ⟨⟨a,never⟩,_⟩ := known.1 (written known.2)
      cases never
  have rest (chosen : String) : (view app u).Goes ((do
      ClusterManager.updateClusterUser usernameMonitor chosen
      updatePassword charm passwordKeyMonitor chosen : Hook Unit).tryElse (fun e => e.isRuntimeError || e.isValueError)
        (fun e => ask (.fail ("Failed to update password for user " ++ usernameMonitor ++ ": " ++ e.text)))
        fun _ => do
          if usernameMonitor = usernameMonitor then do
            ExporterService.setup charm.substrate usernameMonitor chosen
            ExporterService.stop charm.substrate
            ExporterService.start charm.substrate
          else pure ()) Acting Paid := by
    refine goes_tryElse (attempts chosen) (fun e _ => fails _) (fun _ => ?_)
      (fun e _ o (known : Acting o) => paid_of_unwritten known.2)
    exact goes_ite _ (fun _ => exporter chosen) (fun other => absurd rfl other)
  show (view app u).Goes (do if ← isLeader then _ else _) _ _
  refine goes_bind (goes_free (Quiet.avoids_ask nofun)) (fun leads => ?_)
    (fun _ o (known : Acting o) => paid_of_unwritten known.2)
  refine goes_ite _ (fun _ => ?_) (fun _ => fails _)
  refine goes_ite _ (fun _ => ?_) (fun _ => rest password)
  exact goes_bind (goes_free (Quiet.avoids_ask nofun)) rest (fun _ o (known : Acting o) => paid_of_unwritten known.2)

/-! ### Runs -/

theorem inv_begin {job : Job} {w' : World} (inv : Inv app w) (begun : Application.begin_ app w u job = some w') :
    Inv app w' ∧ (contract app).guarantee u w w' ∧ (duties app).starts u job w' := by
  unfold Application.begin_ at begun
  split at begun
  · rename_i ready
    cases begun
    refine ⟨inv_rest inv ready.2 rfl rfl,fun v other => ?_,ready.1,?_⟩
    · simp only [own,update_of_ne other]
    · simp only [own,update_self]
  · cases begun

theorem inv_finish (job : Job) {r : Except Exn Unit} (inv : Inv app w) (paid : Paid r (own u w)) :
    Inv app (w.finish u job r) ∧ (contract app).guarantee u w (w.finish u job r) := by
  have others (secret : Databag) : (contract app).guarantee u w
      { w with secret := secret, hook := update w.hook u .none } := by
    intro v other
    simp only [own,update_of_ne other]
  refine ⟨?_,others _⟩
  cases staged : (w.hook u).staged with
  | none =>
    have same : (if r = .ok () ∧ w.leader = some u then (w.hook u).staged.getD w.secret else w.secret) = w.secret := by
      rw [staged,Option.getD_none,ite_self]
    rw [World.finish,same]
    exact inv_rest inv staged rfl rfl
  | some content =>
    obtain ⟨returns,uses⟩ := paid content staged
    have commits : (if r = .ok () ∧ w.leader = some u then (w.hook u).staged.getD w.secret else w.secret) = content := by
      rw [if_pos ⟨returns,inv.leads u content staged⟩,staged,Option.getD_some]
    rw [World.finish,commits]
    exact inv_commit inv staged uses

theorem fulfils : (contract app).Fulfils (Application.system app) (duties app) where
  begins w u job w' inv begun := inv_begin inv begun
  finishes w u job r inv owed := inv_finish job inv owed
  acts w a inv allowed := by
    obtain ⟨leader⟩ := a
    refine ⟨⟨inv.outside,fun v content staged => ?_,inv.read,inv.configured,inv.ahead⟩,fun _ => rfl⟩
    have staged : (w.hook v).staged = some content := staged
    have inside : v ∈ app.units := by
      by_contra out
      rw [(inv.outside v out).2.2] at staged
      cases staged
    have stays := List.all_eq_true.mp allowed v inside
    rw [staged] at stays
    exact beq_iff_eq.mp stays
  jobs u job := by
    refine Contract.outline_assuming fun member => ?_
    cases job with
    | start =>
      show (view app u).Goes (onStart (app.charm u)) (fun o => o.hook = ⟨true,none,none⟩) Paid
      refine goes_post (goes_pre (goes_onStart member (app.charm u)) fun o known => ?_) fun _ _ known => paid_of_unwritten known.2
      rw [Starting,known]
      exact ⟨rfl,rfl⟩
    | setPassword password =>
      show (view app u).Goes (onSetPassword (app.charm u) usernameMonitor password)
        (fun o => o.hook = ⟨false,none,none⟩) Paid
      refine goes_pre (goes_onSetPassword member (app.charm u) password) fun o known => ?_
      rw [Acting,known]
      exact ⟨rfl,rfl⟩
  lasts u job r := (view app u).stable (Paid r)

theorem rests : (Application.system app).Rests fun u w => (w.hook u).staged = none where
  finishes w u job r := by
    show (update w.hook u Pending.none u).staged = none
    rw [update_self]
    rfl
  begins w u v job w' other begun rests := by
    have begun : Application.begin_ app w u job = some w' := begun
    unfold Application.begin_ at begun
    split at begun
    · cases begun
      simp only [update_of_ne other]
      exact rests
    · cases begun
  calls w u v c r happened other rests := by
    have same := congrArg (fun o => o.hook.staged) (own_effect w c r happened other)
    exact same.trans rests
  ends w u v job r other rests := by
    show (update w.hook u Pending.none v).staged = none
    rw [update_of_ne other]
    exact rests
  acts _ _ _ rests := rests

end

/-- For every application, any number of units, and every order of start hooks, set-password
    actions and changes of the leader: if no action is disturbed, the exporters follow the
    secret once all units have handled their events. -/
theorem follows_of_undisturbed (app : Application) (leader : Option UnitId) (secret : Databag)
    (labels : List (Label UnitId Job Call Reply Exn Act))
    (allowed : (Application.system app).allAllowed (undisturbed app) (idle (before leader secret)) labels = true)
    (settled : Settled app ((Application.system app).run (idle (before leader secret)) labels)) :
    Follows ((Application.system app).run (idle (before leader secret)) labels).world := by
  have inv : Inv app (before leader secret) :=
    ⟨fun _ _ => ⟨rfl,rfl,rfl⟩,fun _ _ => nofun,fun _ _ => nofun,fun _ _ => nofun,fun _ _ => nofun⟩
  have bound := Contract.bound_run (@fulfils app) (Contract.bound_idle inv) labels allowed
  have rest := System.rests_run (@rests app) labels (s := idle (before leader secret)) fun _ _ => rfl
  intro u password uses
  rcases bound.1.configured u password uses with current | ⟨content,staged,_⟩
  · exact current
  · by_cases inside : u ∈ app.units
    · rw [rest u (settled u inside)] at staged
      cases staged
    · rw [(bound.1.outside u inside).1] at uses
      cases uses

/-- Every call succeeds. -/
def replies : (c : Call) → Except Exn (Reply c)
  | .snapPresent => .ok true
  | .clusterSetStatus _ => .ok ⟨"cluster",[("cluster",⟨"OK",some "10.0.0.10:3306"⟩)]⟩
  | _ => .ok default

def passwords : Databag :=
  [(passwordKeyOperator,"a"),(passwordKeyBackups,"b"),(passwordKeyMonitor,"c"),(passwordKeyReplication,"d")]

def started (u : UnitId) : List (Label UnitId Job Call Reply Exn Act) := Label.whole u .start replies 60

/-- The leader sets the password. -/
def changed : List (Label UnitId Job Call Reply Exn Act) := Label.whole 0 (.setPassword "new") replies 30

abbrev deployed : State UnitId Job Call Reply Exn Unit World := idle (before (some 0) passwords)

theorem settled_pair {s : State UnitId Job Call Reply Exn Unit World}
    (free : (s.running 0).isNone && (s.running 1).isNone) : Settled pair s := by
  obtain ⟨first,second⟩ := Bool.and_eq_true_iff.mp free
  intro u member
  rcases List.mem_pair.mp member with rfl | rfl
  · exact Option.isNone_iff_eq_none.mp first
  · exact Option.isNone_iff_eq_none.mp second

/-- The second unit starts once the password has been set. -/
theorem follows_started :
    Follows ((Application.system pair).run deployed (started 0 ++ changed ++ started 1)).world ∧
      ((Application.system pair).run deployed (started 0 ++ changed ++ started 1)).world.exporter 1 = some "new" :=
  ⟨follows_of_undisturbed pair (some 0) passwords _ (by decide +kernel) (settled_pair (by decide +kernel)),
    by decide +kernel⟩

/-- The second unit has started before, and keeps the old password. -/
theorem started_keeps_old :
    ¬ ∀ (app : Application) (leader : Option UnitId) (secret : Databag)
      (labels : List (Label UnitId Job Call Reply Exn Act)),
        Settled app ((Application.system app).run (idle (before leader secret)) labels) →
        Follows ((Application.system app).run (idle (before leader secret)) labels).world := by
  intro always
  have follows := always pair (some 0) passwords (started 0 ++ started 1 ++ changed) (settled_pair (by decide +kernel))
  have old : ((Application.system pair).run deployed (started 0 ++ started 1 ++ changed)).world.exporter 1 = some "c" := by
    decide +kernel
  have new : monitorPassword ((Application.system pair).run deployed (started 0 ++ started 1 ++ changed)).world.secret =
      some "new" := by decide +kernel
  generalize (Application.system pair).run deployed (started 0 ++ started 1 ++ changed) = s at follows old new
  rw [follows 1 "c" old] at new
  revert new
  decide

end MysqlOperators.ExporterCredentials
