import MysqlOperators.Interleaving
import MysqlOperators.Databases
import MysqlOperators.Publication

/-!
The database request of a client. The library emits it once, on the unit that leads
then, and it stays with that unit: as the event of a hook that is to run, that has
raised and runs again, or that has deferred it. Meanwhile leadership moves. What a
hook writes is published when it returns.
-/
namespace MysqlOperators.Requests
open MysqlOperators.Program MysqlOperators.Program.Prog MysqlOperators.External MysqlOperators.Clients
open MysqlOperators.Workload MysqlOperators.Helpers MysqlOperators.Databases MysqlOperators.Publication
open MysqlOperators.Quiet MysqlOperators.Interleaving Contract.Local

/-! ### The application -/

structure Application where
  charm : UnitId → Charm
  request : Request

/-- What the databag of the relation says. -/
structure Settings where
  credentials : Option (String × String)
  endpoints : Option String
deriving DecidableEq, Repr

namespace Settings

/-- An empty text removes a setting from the databag. -/
def complete (s : Settings) : Bool := s.credentials.isSome && (nonEmpty s.endpoints).isSome

def mergedInto (written published : Settings) : Settings :=
  ⟨written.credentials <|> published.credentials,written.endpoints <|> published.endpoints⟩

theorem complete_mergedInto {written : Settings} (published : Settings) (complete : written.complete = true) :
    (written.mergedInto published).complete = true := by
  obtain ⟨credentials,endpoints⟩ := written
  cases credentials <;> cases endpoints <;> first | exact complete | cases complete

end Settings

/-- A hook that handles the event, with the peer databags as it sees them. -/
inductive Job where
  | databaseRequested (peers : Option PeersRelation)
deriving DecidableEq, Repr

/-- What the hook that holds the event has done. -/
structure Progress where
  peers : Option PeersRelation
  deferred : Bool
  written : Settings
deriving DecidableEq, Repr

/-- The leader, whether the relation is present, the unit that holds the event, and
    what is published. -/
structure World where
  leader : Option UnitId
  present : Bool
  holder : Option UnitId
  hook : Progress
  published : Settings

inductive Act where
  | elect (leader : Option UnitId)
  | broken
deriving DecidableEq, Repr

namespace World

def begin_ (w : World) (u : UnitId) : Job → Option World
  | .databaseRequested peers =>
    if w.holder = some u then some { w with hook := ⟨peers,false,⟨none,none⟩⟩ } else none

/-- The event is gone once a hook returns that has not deferred it. -/
def finish (w : World) (u : UnitId) (_ : Job) : Except Exn Unit → World
  | .ok _ =>
    { w with holder := if w.hook.deferred then some u else none, published := w.hook.written.mergedInto w.published }
  | .error _ => w

def act (w : World) : Act → World
  | .elect leader => { w with leader := leader }
  | .broken => { w with present := false }

end World

namespace Application
variable (app : Application)

def program (u : UnitId) : Job → Hook Unit
  | .databaseRequested _ => onDatabaseRequested (app.charm u) app.request

def answer (w : World) (u : UnitId) : (c : Call) → Except Exn (Reply c) → Except Exn (Reply c)
  | .isLeader, .ok _ => .ok (w.leader == some u)
  | .peersRelation, .ok _ => .ok w.hook.peers
  | _, r => r

/-- The library writes nothing for a unit that does not lead. -/
def change (w : World) (u : UnitId) : Call → Progress
  | .defer => { w.hook with deferred := true }
  | .setCredentials relation username password =>
    if relation = app.request.relation ∧ w.leader = some u then
      { w.hook with written := { w.hook.written with credentials := some (username,password) } }
    else w.hook
  | .setEndpoints relation endpoints =>
    if relation = app.request.relation ∧ w.leader = some u then
      { w.hook with written := { w.hook.written with endpoints := some endpoints } }
    else w.hook
  | _ => w.hook

def effect (w : World) (u : UnitId) (c : Call) (r : Except Exn (Reply c)) (happened : Bool) : World :=
  match r with
  | .ok _ => { w with hook := app.change w u c }
  | .error _ => if happened then { w with hook := app.change w u c } else w

def system : System UnitId Job Call Reply Exn Unit World Act where
  program := app.program
  answer := answer
  effect := app.effect
  begin_ := World.begin_
  finish := World.finish
  act := World.act

end Application

/-- The request is served, or a unit holds it, as long as the relation is there. -/
def NotLost (w : World) : Prop := w.present = true → w.holder.isSome = true ∨ w.published.complete = true

/-- The calls that `serve` makes. -/
def serving : Call → Bool
  | .searchDatabases _ | .clusterSetStatus _ | .createDatabase _ _ | .searchRoles _ _ | .executeSql _ _
  | .setDatabase _ _ | .modelUuid | .relationField _ _ | .randomPassword | .createUser _ _ _ _
  | .setCredentials _ _ _ | .instanceVersion _ | .setVersion _ _ => true
  | _ => false

/-- A writable instance of a unit with a known address. -/
def reachable (charm : Charm) (peers : Option PeersRelation) (topology : List (String × InstanceInfo)) : Bool :=
  topology.any fun entry =>
    writable entry.2 && (addressFor charm (peerAddress charm peers relationDatabase) (unitsOf charm peers) entry.1).isSome

/-- While the relation is there, the unit that handles the event leads whenever that
    matters, no call that serves the request raises a RuntimeError, and on machines
    the cluster has a writable instance with an address. -/
def attended (app : Application) : Condition UnitId Call Reply Exn World Act where
  call w u c r _ := !w.present ||
    match c,r with
    | .isLeader, .ok leads => leads && (nonEmpty app.request.database).isSome
    | .setCredentials _ _ _, .ok _ => w.leader == some u
    | .setEndpoints _ _, .ok _ => w.leader == some u
    | .clusterStatus _, r => (app.charm u).substrate == .k8s ||
      (match topologyOf r with
        | none => true
        | some topology => reachable (app.charm u) w.hook.peers topology)
    | .clusterSetStatus _, .ok report => sober (DatabaseManager.primaryIn report)
    | c, r => !serving c || sober r
  act _ _ := true

/-! ### The contract -/

section
variable (app : Application)

/-- What a hook does leaves the event with its unit until it ends. -/
def contract : Contract UnitId Call Reply Exn World Act where
  condition := attended app
  inv := NotLost
  guarantee u w _ := w.holder = some u
  environment w w' := w'.holder = w.holder ∧ w'.hook = w.hook ∧ (w'.present = true → w.present = true)
  safe _ _ _ := True

/-- Knowledge of the unit that holds the event, for as long as the relation is there. -/
def Known (u : UnitId) (P : Progress → Prop) (w : World) : Prop :=
  w.holder = some u ∧ (w.present = true → P w.hook)

/-- A hook that returns has deferred the event or served the request. -/
def duties : Contract.Duties UnitId Job Exn Unit World where
  starts u | .databaseRequested peers => Known u (fun h => h.peers = peers)
  ends u _ r := Known u (fun h => ∀ a, r = .ok a → h.deferred = true ∨ h.written.complete = true)

variable {app} {u : UnitId} {α β : Type} {P : Progress → Prop}

theorem stable_known : (contract app).Stable u (Known u P) := by
  rintro w w' _ _ known (⟨holder,hook,present⟩ | ⟨v,other,holds⟩)
  · exact ⟨holder.trans known.1,fun still => by rw [hook]; exact known.2 (present still)⟩
  · have same : some v = some u := holds.symm.trans known.1
    exact absurd (Option.some.inj same) other

theorem effect_frame (w : World) (c : Call) (r : Except Exn (Reply c)) (happened : Bool) :
    (app.effect w u c r happened).holder = w.holder ∧ (app.effect w u c r happened).present = w.present ∧
      (app.effect w u c r happened).published = w.published := by
  unfold Application.effect
  split
  · exact ⟨rfl,rfl,rfl⟩
  · split <;> exact ⟨rfl,rfl,rfl⟩

theorem takes_known {c : Call} {Q : Except Exn (Reply c) → Progress → Prop}
    (learns : ∀ w raw happened, P w.hook → w.present = true →
      (attended app).call w u c (Application.answer w u c raw) happened = true →
        Q (Application.answer w u c raw) (app.effect w u c (Application.answer w u c raw) happened).hook) :
    (contract app).Takes app.system u c (Known u P) (fun r => Known u (Q r)) := by
  refine fun w inv known => ⟨trivial,fun raw happened allowed => ?_⟩
  obtain ⟨holder,present,published⟩ := @effect_frame app u w c (Application.answer w u c raw) happened
  refine ⟨fun still => ?_,known.1,holder.trans known.1,fun still => ?_⟩
  · exact .inl (Option.isSome_iff_exists.mpr ⟨u,holder.trans known.1⟩)
  · have before : w.present = true := present.symm.trans still
    exact learns w raw happened (known.2 before) before allowed

variable (app u) in
/-- The knowledge of a unit, for the rules. -/
def view : Contract.Local (contract app) app.system u Progress where
  knows := Known u
  mono weaker known := ⟨known.1,fun present => weaker _ (known.2 present)⟩
  stable _ := stable_known
  void _ := takes_known (fun _ _ _ gone _ _ => gone)

theorem goes_call {c : Call} {Q : Except Exn (Reply c) → Progress → Prop}
    (learns : ∀ w raw happened, P w.hook → w.present = true →
      (attended app).call w u c (Application.answer w u c raw) happened = true →
        Q (Application.answer w u c raw) (app.effect w u c (Application.answer w u c raw) happened).hook) :
    (view app u).Goes (ask c) P Q := goes_perform (takes_known learns)

/-- Calls that change nothing here. -/
def plain : Call → Bool
  | .defer | .setCredentials _ _ _ | .setEndpoints _ _ => false
  | _ => true

theorem effect_plain {c : Call} (calm : plain c = true) (w : World) (r : Except Exn (Reply c)) (happened : Bool) :
    (app.effect w u c r happened).hook = w.hook := by
  have same : app.change w u c = w.hook := by
    unfold Application.change
    split <;> first | rfl | cases calm
  unfold Application.effect
  split
  · exact same
  · split
    · exact same
    · rfl

theorem goes_plain {c : Call} {Q : Except Exn (Reply c) → Progress → Prop} (calm : plain c = true)
    (learns : ∀ w raw happened, P w.hook → w.present = true →
      (attended app).call w u c (Application.answer w u c raw) happened = true →
        Q (Application.answer w u c raw) w.hook) :
    (view app u).Goes (ask c) P Q := by
  refine goes_call fun w raw happened holds present allowed => ?_
  rw [effect_plain calm]
  exact learns w raw happened holds present allowed

/-! ### Serving the request -/

/-- What a program knows lasts, and it raises no RuntimeError. -/
def Serves (app : Application) (u : UnitId) (p : Hook α) (P : Progress → Prop) : Prop :=
  (view app u).Goes p P (fun r h => P h ∧ sober r = true)

theorem sober_of_allowed {c : Call} (serves : serving c = true) {w : World} (present : w.present = true)
    {r : Except Exn (Reply c)} {happened : Bool} (allowed : (attended app).call w u c r happened = true) :
    sober r = true := by
  cases r with
  | ok a => rfl
  | error e =>
    have either : (!w.present || (!serving c || !e.isRuntimeError)) = true := by
      cases c <;> first | exact allowed | cases serves
    show (!e.isRuntimeError) = true
    simpa [present,serves] using either

theorem serves_ask {c : Call} (serves : serving c = true) (calm : plain c = true) : Serves app u (ask c) P :=
  goes_plain calm (fun _ _ _ holds present allowed => ⟨holds,sober_of_allowed serves present allowed⟩)

theorem serves_pure (a : α) : Serves app u (pure a) P := goes_pure (fun _ holds => ⟨holds,rfl⟩)

theorem serves_bind {p : Hook β} {f : β → Hook α} (first : Serves app u p P) (rest : ∀ b, Serves app u (f b) P) :
    Serves app u (p >>= f) P :=
  goes_bind first (fun b => goes_pre (rest b) (fun _ known => known.1)) (fun _ _ known => known)

theorem serves_primaryHost : Serves app u DatabaseManager.primaryHost P := by
  unfold Serves
  rw [DatabaseManager.primaryHost_eq]
  refine goes_bind (M := fun r h => (P h ∧ sober r = true) ∧
    ∀ report, r = .ok report → sober (DatabaseManager.primaryIn report) = true)
    (goes_plain rfl fun w raw happened holds present allowed => ?_) (fun report => ?_) (fun _ _ known => known.1)
  · refine ⟨⟨holds,sober_of_allowed rfl present allowed⟩,fun report answered => ?_⟩
    rw [answered] at allowed
    simpa [attended,present] using allowed
  · cases found : DatabaseManager.primaryIn report with
    | error e => exact goes_raise (fun h known => ⟨known.1.1,found ▸ known.2 report rfl⟩)
    | ok host => exact goes_pure (fun h known => known.1)

theorem serves_createDatabase (database : String) : Serves app u (DatabaseManager.createDatabase database) P := by
  refine serves_bind (serves_bind (serves_ask rfl rfl) fun _ => serves_pure _) fun databases => ?_
  refine goes_ite _ (fun _ => serves_pure ()) (fun _ => serves_bind serves_primaryHost fun host => ?_)
  refine serves_bind (serves_ask rfl rfl) fun _ => serves_bind ?_ fun _ => serves_bind (serves_ask rfl rfl) fun _ => ?_
  · exact serves_bind (serves_ask rfl rfl) fun _ => serves_pure _
  · exact serves_pure _

theorem serves_setDatabase (relation : Nat) (database : String) : Serves app u (setDatabase relation database) P :=
  serves_bind (serves_createDatabase database) fun _ => serves_ask rfl rfl

theorem serves_createDatabaseUser (database username : String) (password : Option String) (roles : List String) :
    Serves app u (DatabaseManager.createDatabaseUser database username password roles) P := by
  unfold DatabaseManager.createDatabaseUser
  refine serves_bind ?_ fun password => serves_bind serves_primaryHost fun host => serves_bind ?_ fun _ => serves_pure _
  · split
    · exact serves_pure _
    · exact serves_ask rfl rfl
  · refine serves_bind (serves_ask rfl rfl) fun _ => Contract.outline_ite _ (fun _ => ?_) (fun _ => serves_pure _)
    exact serves_bind (serves_ask rfl rfl) fun _ => serves_pure _

/-- A program that returns has written the credentials. -/
def Credits (app : Application) (u : UnitId) (peers : Option PeersRelation) (p : Hook α) : Prop :=
  (view app u).Goes p (fun h => h.peers = peers) (fun r h =>
    (∀ a, r = .ok a → h.written.credentials.isSome = true) ∧ h.peers = peers ∧ sober r = true)

theorem credits_bind {peers : Option PeersRelation} {p : Hook β} {f : β → Hook α}
    (first : Serves app u p (fun h => h.peers = peers)) (rest : ∀ b, Credits app u peers (f b)) :
    Credits app u peers (p >>= f) :=
  goes_bind first (fun b => goes_pre (rest b) (fun _ known => known.1)) (fun _ _ known => ⟨nofun,known⟩)

/-- The credentials are written by the leader. -/
theorem credits_setDatabaseUser (peers : Option PeersRelation) (database : String) (roles : List String) :
    Credits app u peers (setDatabaseUser app.request.relation database roles) := by
  refine credits_bind (serves_bind (serves_ask rfl rfl) fun _ => serves_pure _) fun username => ?_
  refine credits_bind (serves_ask rfl rfl) fun password => ?_
  refine credits_bind (serves_createDatabaseUser ..) fun password => ?_
  refine goes_call fun w raw happened holds present allowed =>
    ⟨fun a answered => ?_,?_,sober_of_allowed rfl present allowed⟩
  · rw [answered] at allowed ⊢
    have leads : w.leader = some u := by simpa [attended,present] using allowed
    simp [Application.effect,Application.change,leads]
  · have kept : (app.change w u (.setCredentials app.request.relation username password)).peers = peers := by
      unfold Application.change
      dsimp only
      split <;> exact holds
    unfold Application.effect
    split
    · exact kept
    · split
      · exact kept
      · exact holds

theorem credits_serve (peers : Option PeersRelation) (database : String) :
    Credits app u peers (serve app.request database) := by
  have user : Credits app u peers (do
      setDatabaseUser app.request.relation database app.request.roles
      setDatabaseVersion app.request.relation) := by
    refine goes_bind (credits_setDatabaseUser peers database _) (fun _ => ?_) (fun _ _ known => ⟨nofun,known.2⟩)
    have version : Serves app u (setDatabaseVersion app.request.relation)
        (fun h => h.written.credentials.isSome = true ∧ h.peers = peers) :=
      serves_bind (serves_bind (serves_ask rfl rfl) fun _ => serves_pure _) fun _ => serves_ask rfl rfl
    exact goes_post (goes_pre version fun h known => ⟨known.1 () rfl,known.2.1⟩)
      (fun _ _ known => ⟨fun _ _ => known.1.1,known.1.2,known.2⟩)
  refine goes_ite _ (fun _ => user) (fun _ => ?_)
  exact credits_bind (serves_setDatabase _ _) (fun _ => user)

/-! ### Publishing the endpoints -/

section
variable {peers : Option PeersRelation} (sees : ∀ h, P h → h.peers = peers)
include sees

theorem goes_peersRelation :
    (view app u).Goes (ask .peersRelation) P (fun r h => (∀ found, r = .ok found → found = peers) ∧ P h) := by
  refine goes_plain rfl fun w raw happened holds _ _ => ⟨fun found answered => ?_,holds⟩
  cases raw with
  | error e => cases answered
  | ok _ =>
    cases answered
    exact sees w.hook holds

theorem goes_getUnitAddress {charm : Charm} (machine : charm.substrate = .vm) (unit : UnitId) :
    (view app u).Goes (getUnitAddress charm unit relationDatabase) P
      (fun r h => (∀ address, r = .ok address → address = peerAddress charm peers relationDatabase unit) ∧ P h) := by
  simp only [getUnitAddress,machine]
  refine goes_bind (goes_peersRelation sees) (fun found => goes_knowing fun same => ?_)
    (fun _ _ known => ⟨fun _ same => (by cases same),known.2⟩)
  obtain rfl := same found rfl
  cases found with
  | none => exact goes_pure fun h holds => ⟨fun _ same => by cases same; rfl,holds⟩
  | some peers =>
    by_cases own : unit = charm.unit
    · simp only [own,if_true,peerAddress,getUnitAddress_getD]
      exact goes_pure fun h holds => ⟨fun _ same => by cases same; rfl,holds⟩
    · simp only [own,if_false,peerAddress,getUnitAddress_getD]
      cases peers.units.lookup unit with
      | none => exact goes_raise fun h holds => ⟨fun _ same => (by cases same),holds⟩
      | some data => exact goes_pure fun h holds => ⟨fun _ same => by cases same; rfl,holds⟩

theorem goes_charmUnits (charm : Charm) :
    (view app u).Goes (charmUnits charm) P
      (fun r h => (∀ units, r = .ok units → units = unitsOf charm peers) ∧ P h) := by
  refine goes_bind (goes_peersRelation sees) (fun found => goes_knowing fun same => ?_)
    (fun _ _ known => ⟨nofun,known.2⟩)
  obtain rfl := same found rfl
  cases found <;> exact goes_pure fun h holds => ⟨fun _ same => by cases same; rfl,holds⟩

/-- The loop of `build_cluster_endpoints`. -/
theorem goes_collectEndpoints {charm : Charm} (machine : charm.substrate = .vm) (units : List UnitId)
    (topology : List (String × InstanceInfo)) (e : Endpoints) :
    (view app u).Goes (collectEndpoints charm units relationDatabase e topology) P
      (fun r h => (∀ f, r = .ok f → f = prepended charm (peerAddress charm peers relationDatabase) units e topology) ∧ P h) := by
  induction topology generalizing e with
  | nil =>
    refine goes_pure fun h holds => ⟨fun f same => ?_,holds⟩
    cases same
    simp [prepended,endpointsOf,addressesFor]
  | cons entry rest ih =>
    obtain ⟨label,info⟩ := entry
    by_cases recovering : info.status = .recovering
    · rw [collectEndpoints,if_pos recovering,prepended_skipped (.inl recovering)]
      exact ih e
    · rw [collectEndpoints,if_neg recovering]
      cases found : units.find? (fun u => getUnitLabel charm u = label) with
      | none =>
        rw [prepended_skipped (.inr (by simp [addressFor,found]))]
        exact ih e
      | some unit =>
        refine goes_bind (goes_getUnitAddress sees machine unit) (fun address => goes_knowing fun same => ?_)
          (fun _ _ known => ⟨fun _ same => (by cases same),known.2⟩)
        obtain rfl := same address rfl
        by_cases empty : peerAddress charm peers relationDatabase unit = ""
        · rw [prepended_skipped (.inr (by simp [addressFor,found,empty])),if_pos empty]
          exact ih e
        · rw [@prepended_added _ _ _ _ _ (peerAddress charm peers relationDatabase unit) recovering
            (by simp [addressFor,found,empty]),if_neg empty]
          exact ih _

/-- A topology that the handler goes on with has a writable instance. -/
theorem goes_fetchInstances (machine : (app.charm u).substrate = .vm) :
    (view app u).Goes (ClusterClient.fetchInstances .own) P (fun r h =>
      (∀ topology, r = .ok topology → reachable (app.charm u) peers topology = true) ∧ P h) := by
  have status : (view app u).Goes (ask (.clusterStatus .own)) P (fun r h =>
      (∀ topology, topologyOf r = some topology → reachable (app.charm u) peers topology = true) ∧ P h) := by
    refine goes_plain rfl fun w raw happened holds present allowed => ⟨fun topology went => ?_,holds⟩
    simpa [attended,present,machine,went,sees w.hook holds] using allowed
  refine goes_tryElse status (fun e caught => ?_) (fun report => ?_) (fun _ _ _ known => ⟨nofun,known.2⟩)
  · refine goes_pure fun h known => ⟨fun topology same => known.1 topology ?_,known.2⟩
    cases same
    simp [topologyOf,caught]
  · exact goes_pure fun h known => ⟨fun topology same => known.1 topology (congrArg some (Except.ok.inj same)),known.2⟩

end

theorem writable_ne_nil {charm : Charm} {peers : Option PeersRelation} {topology : List (String × InstanceInfo)}
    (reaches : reachable charm peers topology = true) :
    addressesFor charm (peerAddress charm peers relationDatabase) (unitsOf charm peers) writable topology ≠ [] := by
  obtain ⟨entry,member,both⟩ := List.any_eq_true.mp reaches
  obtain ⟨writes,known⟩ := Bool.and_eq_true_iff.mp both
  obtain ⟨address,found⟩ := Option.isSome_iff_exists.mp known
  refine List.ne_nil_of_mem (List.mem_filterMap.mpr ⟨entry,member,?_⟩) (a := address)
  rw [if_pos writes,found]

theorem endpoints_ne_empty {addresses : List String} (filled : addresses ≠ []) :
    ",".intercalate (addresses.map withPort) ≠ "" := by
  cases addresses with
  | nil => exact absurd rfl filled
  | cons first rest =>
    have ported : withPort first ≠ "" := by simp [withPort]
    cases rest with
    | nil => simpa using ported
    | cons second rest => simp [ported]

theorem goes_buildDatabaseEndpoints {peers : Option PeersRelation} (sees : ∀ h, P h → h.peers = peers) :
    (view app u).Goes (buildDatabaseEndpoints (app.charm u)) P
      (fun r h => (∀ endpoints, r = .ok endpoints → ",".intercalate endpoints.1 ≠ "") ∧ P h) := by
  have known {γ : Type} {e : Exn} {h : Progress} (holds : P h) :
      (∀ endpoints : List String × List String, (.error e : Except Exn _) = .ok endpoints →
        ",".intercalate endpoints.1 ≠ "") ∧ P h := ⟨nofun,holds⟩
  unfold buildDatabaseEndpoints
  cases machine : (app.charm u).substrate with
  | vm =>
    have built : (view app u).Goes (buildClusterEndpoints (app.charm u) relationDatabase) P
        (fun r h => (∀ e, r = .ok e → ",".intercalate e.rw ≠ "") ∧ P h) := by
      refine goes_bind (goes_fetchInstances sees machine) (fun topology => goes_knowing fun reaches => ?_)
        (fun _ _ known => ⟨nofun,known.2⟩)
      refine goes_bind (goes_charmUnits sees _) (fun units => goes_knowing fun same => ?_)
        (fun _ _ known => ⟨nofun,known.2⟩)
      obtain rfl := same units rfl
      refine goes_bind (goes_collectEndpoints sees machine _ topology _) (fun e => goes_knowing fun same => ?_)
        (fun _ _ known => ⟨nofun,known.2⟩)
      refine goes_pure fun h holds => ⟨fun f same' => ?_,holds⟩
      cases same'
      rw [same e rfl]
      refine endpoints_ne_empty ?_
      simpa [prepended,endpointsOf] using writable_ne_nil (reaches topology rfl)
    refine goes_bind built (fun e => goes_knowing fun filled => ?_) (fun _ _ known => ⟨nofun,known.2⟩)
    exact goes_pure fun h holds => ⟨fun _ same => by cases same; exact filled e rfl,holds⟩
  | k8s =>
    have asked {c : Call} (calm : plain c = true) : (view app u).Goes (ask c) P (fun _ => P) :=
      goes_plain calm fun _ _ _ holds _ _ => holds
    refine goes_bind (asked rfl) (fun primary => ?_) (fun _ _ holds => ⟨nofun,holds⟩)
    refine goes_bind (asked rfl) (fun replicas => goes_bind (asked rfl) (fun _ => ?_) (fun _ _ holds => ⟨nofun,holds⟩))
      (fun _ _ holds => ⟨nofun,holds⟩)
    refine goes_pure fun h holds => ⟨fun _ same => ?_,holds⟩
    cases same
    exact @endpoints_ne_empty [primary] (by simp)

/-- The endpoints are written by the leader. -/
theorem goes_updateRelationEndpoints {peers : Option PeersRelation} :
    (view app u).Goes (updateRelationEndpoints (app.charm u) app.request.relation)
      (fun h => h.peers = peers ∧ h.written.credentials.isSome = true)
      (fun r h => ∀ a, r = .ok a → h.written.complete = true) := by
  refine goes_bind (goes_buildDatabaseEndpoints fun h known => known.1) (fun endpoints => goes_knowing fun filled => ?_)
    (fun _ _ _ => nofun)
  refine goes_bind (M := fun r h => ∀ a, r = .ok a → h.written.complete = true)
    (goes_call fun w raw happened known present allowed a answered => ?_) (fun _ => ?_) (fun _ _ _ => nofun)
  · rw [answered] at allowed ⊢
    have leads : w.leader = some u := by simpa [attended,present] using allowed
    have named : nonEmpty (some (",".intercalate endpoints.1)) = some (",".intercalate endpoints.1) := by
      have filled := filled endpoints rfl
      unfold nonEmpty
      split
      · rename_i same
        exact absurd (Option.some.inj same) filled
      · rfl
    simp [Application.effect,Application.change,leads,Settings.complete,named,known.2]
  · exact goes_plain rfl fun _ _ _ known _ _ _ _ => known () rfl

/-! ### The event -/

/-- What only reports may write endpoints. -/
theorem goes_quiet {p : Hook α} (avoids : Avoids Loud p)
    (indifferent : ∀ h endpoints, P h → P { h with written := { h.written with endpoints := endpoints } }) :
    (view app u).Goes p P (fun _ => P) := by
  refine Contract.outline_frame stable_known (fun c reports => takes_known fun w raw happened holds _ _ => ?_) avoids
  have changed : P (app.change w u c) := by
    unfold Application.change
    split
    · exact absurd rfl reports
    · exact absurd rfl reports
    · split
      · exact indifferent w.hook _ holds
      · exact holds
    · exact holds
  unfold Application.effect
  split
  · exact changed
  · split
    · exact changed
    · exact holds

theorem goes_onDatabaseRequested (peers : Option PeersRelation) :
    (view app u).Goes (onDatabaseRequested (app.charm u) app.request) (fun h => h.peers = peers)
      (fun r h => ∀ a, r = .ok a → h.deferred = true ∨ h.written.complete = true) := by
  refine goes_bind (goes_quiet (quiet_initialized _) fun _ _ holds => holds) (fun ready => ?_) (fun _ _ _ => nofun)
  refine goes_ite _ (fun _ => ?_) (fun _ => ?_)
  · refine goes_bind (M := fun r h => (∀ leads, r = .ok leads → leads = true ∧ (nonEmpty app.request.database).isSome) ∧
      h.peers = peers) (goes_plain rfl fun w raw happened holds present allowed => ⟨fun leads answered => ?_,holds⟩)
      (fun leads => goes_knowing fun served => ?_) (fun _ _ _ => nofun)
    · rw [answered] at allowed
      simpa [attended,present] using allowed
    obtain ⟨rfl,named⟩ := served leads rfl
    obtain ⟨database,found⟩ := Option.isSome_iff_exists.mp named
    simp only [if_true,found]
    refine goes_tryElse (credits_serve peers database) (fun e caught => ?_) (fun _ => ?_) (fun _ _ _ _ => nofun)
    · -- the failure that is swallowed
      refine goes_pre (goes_void _) fun h known => ?_
      have calm : (!e.isRuntimeError) = true := known.2.2
      rw [caught] at calm
      cases calm
    · refine goes_pre (?_ : (view app u).Goes _ (fun h => h.peers = peers ∧ h.written.credentials.isSome = true) _)
        (fun h known => ⟨known.2.1,known.1 () rfl⟩)
      refine goes_bind (goes_quiet (quiet_setUnitStatus _) fun _ _ holds => holds) (fun _ => ?_) (fun _ _ _ => nofun)
      refine goes_bind (goes_quiet (quiet_updateAppLabels _) fun _ _ holds => holds) (fun _ => ?_) (fun _ _ _ => nofun)
      exact goes_post goes_updateRelationEndpoints (fun _ _ served a same => .inr (served a same))
  · refine goes_call fun w raw happened _ _ _ a answered => .inl ?_
    rw [answered]
    rfl

/-! ### The jobs -/

theorem begins (w : World) (u : UnitId) (job : Job) (w' : World) (_ : NotLost w) (begun : w.begin_ u job = some w') :
    NotLost w' ∧ (contract app).guarantee u w w' ∧ duties.starts u job w' := by
  cases job with
  | databaseRequested peers =>
    simp only [World.begin_] at begun
    split at begun
    · rename_i holds
      cases begun
      exact ⟨fun _ => .inl (by rw [holds]; rfl),holds,holds,fun _ => rfl⟩
    · cases begun

theorem finishes (w : World) (u : UnitId) (job : Job) (r : Except Exn Unit) (inv : NotLost w)
    (owed : duties.ends u job r w) : NotLost (w.finish u job r) ∧ (contract app).guarantee u w (w.finish u job r) := by
  obtain ⟨holds,ended⟩ := owed
  cases r with
  | error e => exact ⟨inv,holds⟩
  | ok a =>
    refine ⟨fun present => ?_,holds⟩
    rcases ended present a rfl with deferred | complete
    · exact .inl (by simp [World.finish,deferred])
    · exact .inr (Settings.complete_mergedInto _ complete)

theorem acts (w : World) (a : Act) (inv : NotLost w) : NotLost (w.act a) ∧ (contract app).environment w (w.act a) := by
  cases a with
  | elect leader => exact ⟨inv,rfl,rfl,id⟩
  | broken => exact ⟨nofun,rfl,rfl,nofun⟩

theorem fulfils : (contract app).Fulfils app.system duties where
  begins := begins
  finishes := finishes
  acts w a inv _ := acts w a inv
  jobs u job := by
    cases job with
    | databaseRequested peers => exact goes_onDatabaseRequested peers
  lasts u job r :=
    @stable_known app u (fun h => ∀ a, r = .ok a → h.deferred = true ∨ h.written.complete = true)

end

/-- From the world in which a unit gets the event, in every order of hooks, elections
    and the removal of the relation whose steps meet the condition. -/
theorem notLost_of_attended (app : Application) (w : World) (labels : List (Label UnitId Job Call Reply Exn Act))
    (emitted : w.holder.isSome = true) (allowed : app.system.allAllowed (attended app) (idle w) labels = true) :
    NotLost (app.system.run (idle w) labels).world :=
  (Contract.bound_run (@fulfils app) (Contract.bound_idle fun _ => .inl emitted) labels allowed).1

/-- Two units that run on machines. -/
def pair : Application where
  charm u := ⟨.vm,"mysql",u,"cluster",""⟩
  request := ⟨7,some "shop",none⟩

/-- The first unit leads and gets the event. -/
def requested : World := ⟨some 0,true,some 0,⟨none,false,⟨none,none⟩⟩,⟨none,none⟩⟩

/-- The peer databags as the first unit sees them. -/
def peers : PeersRelation := ⟨[],[("database-address","10.0.0.1")],0⟩

/-- Every call succeeds; the unit has joined the cluster if `ready`. -/
def replies (ready : Bool) : (c : Call) → Except Exn (Reply c)
  | .snapPresent => .ok true
  | .snapServiceActive => .ok true
  | .clusterLabels _ => .ok (if ready then ["cluster"] else [])
  | .appData _ => .ok (some "cluster")
  | .clusterSetStatus _ => .ok ⟨"cluster",[("cluster",⟨"OK",some "10.0.0.1:3306"⟩)]⟩
  | .clusterStatus _ => .ok ⟨.primary,.ok,some "10.0.0.1:3306",[("mysql-0",⟨.online,"R/W",none,none⟩)]⟩
  | _ => .ok default

/-- The event is deferred once and served when it comes again. -/
def servedRun : List (Label UnitId Job Call Reply Exn Act) :=
  Label.whole 0 (.databaseRequested (some peers)) (replies false) 40 ++
    Label.whole 0 (.databaseRequested (some peers)) (replies true) 40

theorem notLost_servedRun :
    (pair.system.run (idle requested) servedRun).world.holder = none ∧
      NotLost (pair.system.run (idle requested) servedRun).world :=
  ⟨by decide +kernel,notLost_of_attended pair requested servedRun rfl (by decide +kernel)⟩

/-- The event is deferred, leadership moves, and the event comes again. -/
def movedRun : List (Label UnitId Job Call Reply Exn Act) :=
  Label.whole 0 (.databaseRequested (some peers)) (replies false) 40 ++ .act (.elect (some 1)) ::
    Label.whole 0 (.databaseRequested (some peers)) (replies true) 40

/-- The unit that held the event skips it, and the new leader has never got it. -/
theorem movedRun_loses :
    ¬ ∀ (app : Application) (w : World) (labels : List (Label UnitId Job Call Reply Exn Act)),
      w.holder.isSome = true → w.holder = w.leader → NotLost (app.system.run (idle w) labels).world := by
  intro always
  have lost : ¬ ((pair.system.run (idle requested) movedRun).world.holder.isSome = true ∨
      (pair.system.run (idle requested) movedRun).world.published.complete = true) := by decide +kernel
  exact lost (always pair requested movedRun rfl rfl (by decide +kernel))

end MysqlOperators.Requests
