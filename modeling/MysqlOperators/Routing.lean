import MysqlOperators.Interleaving
import MysqlOperators.Mappings
import MysqlOperators.RoleLabels

/-!
The services of the Kubernetes charm and the labels of its pods, at the interface of
the API server. A service is created once; a label is written by a read of the pod and
a patch of what was read, while other units do the same and other programs label,
delete and create pods. The server takes a patch only of the version that it has. Each
job finds some name of the cluster in the databag, which a new leader may overwrite.
-/
namespace MysqlOperators.Routing
open MysqlOperators.Program MysqlOperators.Program.Prog MysqlOperators.Interleaving MysqlOperators.External
open MysqlOperators.Helpers (Endpoints)
open MysqlOperators.RoleLabels (Labels)
open MysqlOperators.RoleLabels.ContainerRuntime (relabel)
open MysqlOperators.RoleLabels.K8sCharm (roleLabels)
open Function (update update_self update_of_ne)

structure Pod where
  version : Nat
  labels : Labels

structure Service where
  selector : List (String × String)
  port : Nat
deriving DecidableEq, Repr

/-- The requests of `lightkube` that the charm makes. -/
inductive Request where
  | create (name : String) (service : Service)
  | get (name : String)
  | patch (name : String) (pod : Pod)

abbrev Response : Request → Type
  | .get _ => Pod
  | _ => Unit

/-- `ApiError` with its status code, and the `RuntimeError` that the charm makes of it. -/
inductive Failure where
  | api (code : Nat) (text : String)
  | runtime (text : String)
deriving DecidableEq, Repr

def Failure.isApi : Failure → Bool
  | api _ _ => true
  | runtime _ => false

def Failure.isRuntime : Failure → Bool
  | api _ _ => false
  | runtime _ => true

abbrev Action := Prog Request Response Failure

def send (c : Request) : Action (Response c) := perform c

/-! ### The code -/

namespace ContainerRuntime

/-- `create_service`: one that is there already will do. -/
def createService (name : String) (labels : List (String × String)) (port : Nat) : Action Unit :=
  (send (.create name ⟨labels,port⟩)).tryExcept Failure.isApi fun
    | .api 409 _ => ret ()
    | _ => raise (.runtime "Failed to create service")

/-- What `update_labels` says of an error. -/
def message (name : String) : Failure → String
  | .api 403 _ => "\x60juju trust\x60 needed"
  | .api 404 _ => "pod " ++ name ++ " not found"
  | .api 409 _ => "pod " ++ name ++ " changed"
  | .api _ text => text
  | .runtime text => text

def updateLabels (name : String) (labels : List (String × String)) : Action Unit :=
  (do let pod ← send (.get name)
      send (.patch name { pod with labels := relabel pod.labels labels }) : Action Unit).tryExcept Failure.isApi fun e =>
    raise (.runtime ("Failed to update pod labels: " ++ message name e))

end ContainerRuntime

/-- The name of the application and the port of the server. -/
structure Application where
  app : String
  port : Nat

namespace K8sCharm
variable (c : Application) (cluster : String)

def serviceName (role : String) : String := c.app ++ "-" ++ role

def serviceOf (role : String) : Service := ⟨roleLabels c.app cluster role,c.port⟩

def createService (role : String) : Action Unit :=
  ContainerRuntime.createService (serviceName c role) (roleLabels c.app cluster role) c.port

def updateLabel (role address : String) : Action Unit :=
  ContainerRuntime.updateLabels (RoleLabels.podName address) (roleLabels c.app cluster role)

def createAppServices : Action Bool :=
  (do createService c cluster "primary"
      createService c cluster "replicas" : Action Unit).tryElse Failure.isRuntime (fun _ => ret false) (fun _ => ret true)

def updateAppLabels (e : Endpoints) : Action Bool := do
  e.rw.forM (updateLabel c cluster "primary")
  e.ro.forM (updateLabel c cluster "replicas")
  e.no.forM (updateLabel c cluster "offline")
  pure true

end K8sCharm

/-! ### The API server -/

/-- The keys of the labels that the charm writes. -/
def ownKeys : List String := ["application-name","cluster-name","role"]

/-- A label of another program. -/
structure Foreign where
  key : String
  other : key ∉ ownKeys
  value : String

/-- The clock counts the versions. The names that the jobs have found for the cluster, and
    what the other programs have given last to each pod, are kept to compare. -/
structure World where
  clock : Nat
  pods : String → Option Pod
  services : String → Option Service
  names : List String
  given : String → String → Option String

inductive Act where
  /-- A pod is created, or created again, with labels of other programs. -/
  | create (name : String) (labels : List Foreign)
  | delete (name : String)
  | label (name : String) (label : Foreign)
  | unlabel (name key : String) (other : key ∉ ownKeys)

namespace World

/-- A pod changes, and has a new version. -/
def store (w : World) (name : String) (labels : Labels) : World :=
  { w with clock := w.clock + 1, pods := update w.pods name (some ⟨w.clock + 1,labels⟩) }

theorem store_same (w : World) (name : String) (labels : Labels) :
    (w.store name labels).pods name = some ⟨w.clock + 1,labels⟩ := update_self name _ w.pods

theorem store_other (w : World) {name other : String} (labels : Labels) (apart : other ≠ name) :
    (w.store name labels).pods other = w.pods other := update_of_ne apart _ w.pods

/-- The server merges the labels of a patch into those of the pod. -/
def patch (w : World) (name : String) (pod : Pod) : World :=
  match w.pods name with
  | none => w
  | some current =>
    if current.version = pod.version then w.store name (current.labels.update pod.labels.entries) else w

def create (w : World) (name : String) (service : Service) : World :=
  if w.services name = none then { w with services := update w.services name (some service) } else w

/-- A conflict is reported exactly if the service is there. -/
def createAnswer (free : Bool) : Except Failure Unit → Except Failure Unit
  | .ok _ => if free then .ok () else .error (.api 409 "AlreadyExists")
  | .error (.api 409 text) => if free then .error (.api 500 text) else .error (.api 409 text)
  | r => r

def answer (w : World) : (c : Request) → Except Failure (Response c) → Except Failure (Response c)
  | .create name _, r => createAnswer (w.services name).isNone r
  | .get name, .ok _ =>
    match w.pods name with
    | none => .error (.api 404 "NotFound")
    | some pod => .ok pod
  | .patch name pod, .ok _ =>
    match w.pods name with
    | none => .error (.api 404 "NotFound")
    | some current => if current.version = pod.version then .ok () else .error (.api 409 "Conflict")
  | _, r => r

def effect (w : World) : (c : Request) → Except Failure (Response c) → Bool → World
  | .create name service, .ok _, _ => w.create name service
  | .create name service, .error _, true => w.create name service
  | .patch name pod, .ok _, _ => w.patch name pod
  | .patch name pod, .error _, true => w.patch name pod
  | _, _, _ => w

def foreignLabels (labels : List Foreign) : List (String × String) := labels.map fun l => (l.key,l.value)

def act (w : World) : Act → World
  | .create name labels =>
    { w.store name (Mapping.empty.update (foreignLabels labels)) with
      given := update w.given name (fun key => (Mapping.empty.update (foreignLabels labels)).get key) }
  | .delete name => { w with pods := update w.pods name none }
  | .label name label =>
    match w.pods name with
    | none => w
    | some pod =>
      { w.store name (pod.labels.set label.key label.value) with
        given := update w.given name (update (w.given name) label.key (some label.value)) }
  | .unlabel name key _ =>
    match w.pods name with
    | none => w
    | some pod =>
      { w.store name (pod.labels.erase key) with given := update w.given name (update (w.given name) key none) }

end World

/-- A job, with the name that it finds for the cluster. -/
inductive Job where
  | services (cluster : String)
  | labels (cluster : String) (e : Endpoints)

def Job.cluster : Job → String
  | services cluster => cluster
  | labels cluster _ => cluster

def system (c : Application) : System UnitId Job Request Response Failure Bool World Act where
  program _ := fun
    | .services cluster => K8sCharm.createAppServices c cluster
    | .labels cluster e => K8sCharm.updateAppLabels c cluster e
  answer w _ := w.answer
  effect w _ := w.effect
  begin_ w _ job := some { w with names := w.names ++ [job.cluster] }
  finish w _ _ _ := w
  act := World.act

def fresh : World := ⟨0,fun _ => none,fun _ => none,[],fun _ _ => none⟩

/-! ### What always holds -/

/-- A pod with a role has the other labels of the charm as well. -/
def Marked (c : Application) (names : List String) (labels : Labels) : Prop :=
  ∀ role, labels.get "role" = some role →
    labels.get "application-name" = some c.app ∧ ∃ cluster ∈ names, labels.get "cluster-name" = some cluster

structure Sound (c : Application) (w : World) : Prop where
  dated : ∀ name pod, w.pods name = some pod → pod.version ≤ w.clock
  foreign : ∀ name pod, w.pods name = some pod → ∀ key ∉ ownKeys, pod.labels.get key = w.given name key
  marked : ∀ name pod, w.pods name = some pod → Marked c w.names pod.labels
  served : ∀ role service, w.services (K8sCharm.serviceName c role) = some service →
    ∃ cluster ∈ w.names, service = K8sCharm.serviceOf c cluster role

/-- What every step does: a pod that keeps its version is as it was, and no service goes
    away or changes. -/
structure Evolves (w w' : World) : Prop where
  clock : w.clock ≤ w'.clock
  names : w.names ⊆ w'.names
  kept : ∀ name pod, w'.pods name = some pod → pod.version ≤ w.clock → w.pods name = some pod
  served : ∀ name service, w.services name = some service → w'.services name = some service

theorem evolves_refl (w : World) : Evolves w w := ⟨le_refl _,List.Subset.refl _,fun _ _ found _ => found,fun _ _ found => found⟩

/-- The pod as it was read, unless it has another version by now. -/
def Read (name : String) (pod : Pod) (w : World) : Prop :=
  pod.version ≤ w.clock ∧ ∀ current, w.pods name = some current → current.version = pod.version → current = pod

def Served (c : Application) (role : String) (w : World) : Prop :=
  ∃ cluster, w.services (K8sCharm.serviceName c role) = some (K8sCharm.serviceOf c cluster role)

theorem read_evolves {name : String} {pod : Pod} {w w' : World} (evolves : Evolves w w') (read : Read name pod w) :
    Read name pod w' := by
  refine ⟨le_trans read.1 evolves.clock,fun current found same => ?_⟩
  exact read.2 current (evolves.kept name current found (by rw [same]; exact read.1)) same

theorem served_evolves {c : Application} {role : String} {w w' : World} (evolves : Evolves w w')
    (served : Served c role w) : Served c role w' := served.imp fun _ there => evolves.served _ _ there

section
variable {c : Application} {w : World} {cluster : String}

theorem sound_fresh (c : Application) : Sound c fresh := ⟨nofun,nofun,nofun,nofun⟩

theorem evolves_store (name : String) (labels : Labels) (given : String → String → Option String) :
    Evolves w { w.store name labels with given := given } := by
  refine ⟨Nat.le_succ w.clock,List.Subset.refl _,fun other pod found old => ?_,fun _ _ found => found⟩
  by_cases same : other = name
  · subst same
    obtain rfl := Option.some.inj ((World.store_same w other labels).symm.trans found)
    exact absurd old (Nat.not_succ_le_self w.clock)
  · exact (World.store_other w labels same).symm.trans found

theorem sound_store (sound : Sound c w) (name : String) {labels : Labels} {given : String → Option String}
    (foreign : ∀ key ∉ ownKeys, labels.get key = given key) (marked : Marked c w.names labels) :
    Sound c { w.store name labels with given := update w.given name given } := by
  have stored {pod : Pod} (found : (w.store name labels).pods name = some pod) : pod = ⟨w.clock + 1,labels⟩ :=
    (Option.some.inj ((World.store_same w name labels).symm.trans found)).symm
  have others {other : String} {pod : Pod} (apart : other ≠ name) (found : (w.store name labels).pods other = some pod) :
      w.pods other = some pod := (World.store_other w labels apart).symm.trans found
  refine ⟨fun other pod found => ?_,fun other pod found key outside => ?_,fun other pod found => ?_,sound.served⟩
  · by_cases same : other = name
    · subst same
      rw [stored found]
      exact le_refl _
    · exact le_trans (sound.dated other pod (others same found)) (Nat.le_succ w.clock)
  · by_cases same : other = name
    · subst same
      rw [stored found]
      dsimp only
      rw [update_self]
      exact foreign key outside
    · dsimp only
      rw [update_of_ne same]
      exact sound.foreign other pod (others same found) key outside
  · by_cases same : other = name
    · subst same
      rw [stored found]
      exact marked
    · exact sound.marked other pod (others same found)

/-- Any change of a pod's labels is sound that keeps them in step with what was given. -/
theorem stored (sound : Sound c w) (name : String) {labels : Labels} {given : String → Option String}
    (foreign : ∀ key ∉ ownKeys, labels.get key = given key) (marked : Marked c w.names labels) :
    Sound c { w.store name labels with given := update w.given name given } ∧
      Evolves w { w.store name labels with given := update w.given name given } :=
  ⟨sound_store sound name foreign marked,evolves_store name labels _⟩

/-- The labels of a pod after the patch of what was read and changed. -/
theorem get_patched (labels : Labels) (more : List (String × String)) (key : String) :
    (labels.update (relabel labels more).entries).get key = (relabel labels more).get key := by
  rw [Mapping.get_update_entries,RoleLabels.get_relabel]
  by_cases bare : labels.entries = []
  · rw [if_pos bare]
    cases labels.get key <;> rfl
  · rw [if_neg bare]
    cases more.reverse.lookup key with
    | some value => rfl
    | none => cases labels.get key <;> rfl

theorem lookup_foreign {role key : String} (outside : key ∉ ownKeys) :
    (roleLabels c.app cluster role).reverse.lookup key = none := by
  rw [List.lookup_eq_none_iff]
  intro entry member
  have own : entry.1 ∈ ownKeys := by
    rw [List.mem_reverse] at member
    rcases List.mem_cons.mp member with rfl | member
    · exact List.mem_cons_self
    rcases List.mem_cons.mp member with rfl | member
    · exact List.mem_cons_of_mem _ List.mem_cons_self
    obtain rfl := List.mem_singleton.mp member
    exact List.mem_cons_of_mem _ (List.mem_cons_of_mem _ List.mem_cons_self)
  have apart : key ≠ entry.1 := fun same => outside (by rw [same]; exact own)
  simpa using apart

/-- A patch of a pod that was read merges the labels of the role into what the pod has. -/
theorem patched (sound : Sound c w) {name : String} {pod : Pod} (read : Read name pod w) (named : cluster ∈ w.names)
    (role : String) :
    Sound c (w.patch name { pod with labels := relabel pod.labels (roleLabels c.app cluster role) }) ∧
      Evolves w (w.patch name { pod with labels := relabel pod.labels (roleLabels c.app cluster role) }) := by
  unfold World.patch
  cases found : w.pods name with
  | none => exact ⟨sound,evolves_refl w⟩
  | some current =>
    dsimp only
    by_cases same : current.version = pod.version
    · obtain rfl := read.2 current found same
      rw [if_pos same]
      have own := @stored c w sound name
        (current.labels.update (relabel current.labels (roleLabels c.app cluster role)).entries)
        (w.given name) (fun key outside => ?_) (fun seen has => ?_)
      · rwa [Function.update_eq_self] at own
      · rw [get_patched,RoleLabels.get_relabel,lookup_foreign outside,sound.foreign name current found key outside]
        exact ite_self _
      · rw [get_patched,RoleLabels.get_relabel] at has ⊢
        rw [get_patched,RoleLabels.get_relabel]
        by_cases bare : current.labels.entries = []
        · rw [if_pos bare] at has ⊢
          rw [if_pos bare]
          exact sound.marked name current found seen has
        · rw [if_neg bare,if_neg bare]
          exact ⟨rfl,cluster,named,rfl⟩
    · rw [if_neg same]
      exact ⟨sound,evolves_refl w⟩

theorem serviceName_injective (c : Application) : Function.Injective (K8sCharm.serviceName c) :=
  fun _ _ same => (String.append_right_inj (c.app ++ "-")).mp same

theorem created (sound : Sound c w) (named : cluster ∈ w.names) (role : String) :
    Sound c (w.create (K8sCharm.serviceName c role) (K8sCharm.serviceOf c cluster role)) ∧
      Evolves w (w.create (K8sCharm.serviceName c role) (K8sCharm.serviceOf c cluster role)) ∧
      Served c role (w.create (K8sCharm.serviceName c role) (K8sCharm.serviceOf c cluster role)) := by
  unfold World.create
  cases there : w.services (K8sCharm.serviceName c role) with
  | some service =>
    rw [if_neg nofun]
    obtain ⟨first,-,same⟩ := sound.served role service there
    exact ⟨sound,evolves_refl w,first,by rw [there,same]⟩
  | none =>
    rw [if_pos rfl]
    refine ⟨⟨sound.dated,sound.foreign,sound.marked,fun other service found => ?_⟩,
      ⟨le_refl _,List.Subset.refl _,fun _ _ found _ => found,fun name service found => ?_⟩,cluster,update_self _ _ _⟩
    · dsimp only at found
      by_cases same : other = role
      · subst same
        rw [update_self] at found
        exact ⟨cluster,named,(Option.some.inj found).symm⟩
      · rw [update_of_ne ((serviceName_injective c).ne same)] at found
        exact sound.served other service found
    · have apart : name ≠ K8sCharm.serviceName c role := by
        rintro rfl
        rw [there] at found
        cases found
      exact (update_of_ne apart _ _).trans found

theorem own_absent (labels : List Foreign) {key : String} (own : key ∈ ownKeys) :
    (Mapping.empty.update (World.foreignLabels labels)).get key = none := by
  rw [Mapping.get_update,Mapping.get_empty]
  have absent : (World.foreignLabels labels).reverse.lookup key = none := by
    rw [List.lookup_eq_none_iff]
    intro entry member
    obtain ⟨label,-,rfl⟩ := List.mem_map.mp (List.mem_reverse.mp member)
    have apart : key ≠ label.key := fun same => label.other (by rw [← same]; exact own)
    simpa using apart
  rw [absent]
  rfl

/-- Labels that agree on the keys of the charm. -/
theorem marked_congr {names : List String} {labels labels' : Labels} (marked : Marked c names labels)
    (same : ∀ key ∈ ownKeys, labels'.get key = labels.get key) : Marked c names labels' := by
  intro role has
  rw [same "role" (by decide)] at has
  rw [same "application-name" (by decide),same "cluster-name" (by decide)]
  exact marked role has

theorem acted (sound : Sound c w) (a : Act) : Sound c (w.act a) ∧ Evolves w (w.act a) := by
  cases a with
  | create name labels =>
    refine stored sound name (fun _ _ => rfl) (fun role has => ?_)
    rw [own_absent labels (by decide)] at has
    cases has
  | delete name =>
    have left {other : String} {pod : Pod} (found : update w.pods name none other = some pod) :
        w.pods other = some pod := by
      by_cases same : other = name
      · subst same
        cases (update_self other none w.pods).symm.trans found
      · exact (update_of_ne same none w.pods).symm.trans found
    exact ⟨⟨fun other pod found => sound.dated other pod (left found),
        fun other pod found => sound.foreign other pod (left found),
        fun other pod found => sound.marked other pod (left found),sound.served⟩,
      ⟨le_refl _,List.Subset.refl _,fun other pod found _ => left found,fun _ _ found => found⟩⟩
  | label name label =>
    rw [World.act]
    cases there : w.pods name with
    | none => exact ⟨sound,evolves_refl w⟩
    | some pod =>
      refine stored sound name (fun key outside => ?_) (marked_congr (sound.marked name pod there) fun key own => ?_)
      · rw [Mapping.get_set,sound.foreign name pod there key outside,Function.update_apply]
      · rw [Mapping.get_set,if_neg (fun same => label.other (by rw [← same]; exact own))]
  | unlabel name key other =>
    rw [World.act]
    cases there : w.pods name with
    | none => exact ⟨sound,evolves_refl w⟩
    | some pod =>
      refine stored sound name (fun seen outside => ?_) (marked_congr (sound.marked name pod there) fun seen own => ?_)
      · rw [Mapping.get_erase,sound.foreign name pod there seen outside,Function.update_apply]
      · rw [Mapping.get_erase,if_neg (fun same => other (by rw [← same]; exact own))]

end

/-! ### What each job knows -/

section
variable (c : Application)

def contract : Contract UnitId Request Response Failure World Act where
  condition := System.unrestricted
  inv := Sound c
  guarantee _ := Evolves
  environment := Evolves
  safe _ _ _ := True

/-- The services are there once they have been created. -/
def duties : Contract.Duties UnitId Job Failure Bool World where
  starts _ job w := job.cluster ∈ w.names
  ends _ job r w := ∀ cluster, job = .services cluster → r = .ok true → Served c "primary" w ∧ Served c "replicas" w

variable {c} {u : UnitId} {cluster : String}

theorem stable_evolves {L : World → Prop} (lasts : ∀ w w', Evolves w w' → L w → L w') : (contract c).Stable u L := by
  rintro w w' - - holds (evolves | ⟨v,-,evolves⟩)
  · exact lasts w w' evolves holds
  · exact lasts w w' evolves holds

/-- `create` answers with the service, or says that it is there. -/
def Present : Except Failure Unit → Prop
  | .ok _ => True
  | .error (.api 409 _) => True
  | .error _ => False

theorem created_of_present {reply : Except Failure Unit} (present : Present (World.createAnswer true reply)) :
    World.createAnswer true reply = .ok () := by
  revert present
  unfold World.createAnswer
  split
  · exact fun _ => rfl
  · exact False.elim
  · rename_i done conflict
    intro present
    cases reply with
    | ok _ => exact absurd rfl (done ())
    | error e =>
      unfold Present at present
      split at present
      · rename_i same
        cases same
      · rename_i text same
        cases same
        exact absurd rfl (conflict text)
      · exact present.elim

theorem effect_create (w : World) (name : String) (service : Service) (r : Except Failure Unit) (happened : Bool) :
    w.effect (.create name service) r happened = w.create name service ∨
      w.effect (.create name service) r happened = w ∧ r ≠ .ok () := by
  cases r with
  | ok _ => exact .inl rfl
  | error e =>
    cases happened with
    | true => exact .inl rfl
    | false => exact .inr ⟨rfl,nofun⟩

/-- What a job knows of the cluster's name. -/
def Named (cluster : String) (w : World) : Prop := cluster ∈ w.names

theorem named_evolves (w w' : World) (evolves : Evolves w w') (named : Named cluster w) : Named cluster w' :=
  evolves.names named

theorem takes_create (role : String) {L : World → Prop} (lasts : ∀ w w', Evolves w w' → L w → L w')
    (named : ∀ w, L w → Named cluster w) :
    (contract c).Takes (system c) u (.create (K8sCharm.serviceName c role) (K8sCharm.serviceOf c cluster role)) L
      (fun r w => L w ∧ (Present r → Served c role w)) := by
  intro w sound holds
  refine ⟨trivial,fun reply happened _ => ?_⟩
  obtain ⟨newSound,evolves,served⟩ := created sound (named w holds) role
  let r := World.createAnswer (w.services (K8sCharm.serviceName c role)).isNone reply
  let after := w.effect (.create (K8sCharm.serviceName c role) (K8sCharm.serviceOf c cluster role)) r happened
  show Sound c after ∧ Evolves w after ∧ L after ∧ (Present r → Served c role after)
  rcases effect_create w (K8sCharm.serviceName c role) (K8sCharm.serviceOf c cluster role) r happened with made | ⟨same,fails⟩
  · rw [show after = _ from made]
    exact ⟨newSound,evolves,lasts _ _ evolves holds,fun _ => served⟩
  · rw [show after = w from same]
    refine ⟨sound,evolves_refl w,holds,fun present => ?_⟩
    cases there : w.services (K8sCharm.serviceName c role) with
    | none =>
      have free : r = World.createAnswer true reply := by simp only [r,there,Option.isNone_none]
      rw [free] at present fails
      exact absurd (created_of_present present) fails
    | some service =>
      obtain ⟨first,-,same⟩ := sound.served role service there
      exact ⟨first,by rw [there,same]⟩

theorem outline_createService (role : String) {L : World → Prop} (lasts : ∀ w w', Evolves w w' → L w → L w')
    (named : ∀ w, L w → Named cluster w) :
    (contract c).Outline (system c) u (K8sCharm.createService c cluster role) L
      (fun r w => L w ∧ (r = .ok () → Served c role w)) := by
  refine Contract.outline_tryElse (Contract.outline_perform (stable_evolves lasts) (takes_create role lasts named))
    (fun e caught => ?_) (fun _ w _ known => ⟨known.1,fun _ => known.2 trivial⟩) (fun e _ w _ known => ⟨known.1,nofun⟩)
  split
  · exact fun w _ known => ⟨known.1,fun _ => known.2 trivial⟩
  · exact fun w _ known => ⟨known.1,nofun⟩

theorem outline_createAppServices : (contract c).Outline (system c) u (K8sCharm.createAppServices c cluster)
    (Named cluster) (fun r w => r = .ok true → Served c "primary" w ∧ Served c "replicas" w) := by
  have both : ∀ w w', Evolves w w' → Named cluster w ∧ Served c "primary" w → Named cluster w' ∧ Served c "primary" w' :=
    fun w w' evolves known => ⟨named_evolves w w' evolves known.1,served_evolves evolves known.2⟩
  refine Contract.outline_tryElse (M := fun r w => r = .ok () → Served c "primary" w ∧ Served c "replicas" w)
    (Contract.outline_bind (outline_createService "primary" named_evolves fun _ named => named)
      (fun _ => Contract.outline_pre (Contract.outline_post
        (outline_createService "replicas" both fun _ known => known.1)
        fun r w _ known done => ⟨known.1.2,known.2 done⟩) fun w _ known => ⟨known.1,known.2 rfl⟩) (fun _ _ _ _ => nofun))
    (fun _ _ _ _ _ => nofun) (fun _ w _ known _ => known rfl) (fun _ _ _ _ _ => nofun)

theorem takes_get (name : String) : (contract c).Takes (system c) u (.get name) (Named cluster)
    (fun r w => Named cluster w ∧ ∀ pod, r = .ok pod → Read name pod w) := by
  intro w sound named
  refine ⟨trivial,fun reply happened _ => ⟨sound,evolves_refl w,named,fun pod found => ?_⟩⟩
  have there : w.pods name = some pod := by
    cases reply with
    | error e => cases found
    | ok got =>
      change World.answer w (.get name) (.ok got) = .ok pod at found
      rw [World.answer] at found
      cases held : w.pods name with
      | none =>
        rw [held] at found
        cases found
      | some current =>
        rw [held] at found
        exact congrArg some (Except.ok.inj found)
  exact ⟨sound.dated name pod there,fun current found _ => Option.some.inj (found.symm.trans there)⟩

theorem effect_patch (w : World) (name : String) (pod : Pod) (r : Except Failure Unit) (happened : Bool) :
    w.effect (.patch name pod) r happened = w.patch name pod ∨ w.effect (.patch name pod) r happened = w := by
  cases r with
  | ok _ => exact .inl rfl
  | error e => cases happened <;> first | exact .inl rfl | exact .inr rfl

theorem takes_patch (name role : String) (pod : Pod) : (contract c).Takes (system c) u
    (.patch name { pod with labels := relabel pod.labels (roleLabels c.app cluster role) })
    (fun w => Named cluster w ∧ Read name pod w) (fun _ => Named cluster) := by
  rintro w sound ⟨named,read⟩
  refine ⟨trivial,fun reply happened _ => ?_⟩
  let obj : Pod := { pod with labels := relabel pod.labels (roleLabels c.app cluster role) }
  let after := w.effect (.patch name obj) (w.answer (.patch name obj) reply) happened
  show Sound c after ∧ Evolves w after ∧ Named cluster after
  rcases effect_patch w name obj (w.answer (.patch name obj) reply) happened with merged | same
  · obtain ⟨newSound,evolves⟩ := patched sound read named role
    rw [show after = _ from merged]
    exact ⟨newSound,evolves,named_evolves _ _ evolves named⟩
  · rw [show after = w from same]
    exact ⟨sound,evolves_refl w,named⟩

theorem outline_updateLabel (role address : String) : (contract c).Outline (system c) u
    (K8sCharm.updateLabel c cluster role address) (Named cluster) (fun _ => Named cluster) := by
  refine Contract.outline_tryElse (M := fun _ => Named cluster)
    (Contract.outline_bind (Contract.outline_perform (stable_evolves named_evolves) (takes_get _))
      (fun pod => ?_) (fun _ _ _ known => known.1)) (fun _ _ _ _ known => known) (fun _ _ _ known => known)
    (fun _ _ _ _ known => known)
  refine Contract.outline_pre (Contract.outline_perform (stable_evolves fun w w' evolves known => ?_)
    (takes_patch _ role pod)) fun w _ known => ⟨known.1,known.2 pod rfl⟩
  exact ⟨named_evolves w w' evolves known.1,read_evolves evolves known.2⟩

theorem outline_updateEach (role : String) (addresses : List String) : (contract c).Outline (system c) u
    (addresses.forM (K8sCharm.updateLabel c cluster role)) (Named cluster) (fun _ => Named cluster) := by
  induction addresses with
  | nil => exact fun _ _ named => named
  | cons address rest ih =>
    exact Contract.outline_bind (outline_updateLabel role address) (fun _ => ih) (fun _ _ _ named => named)

theorem outline_updateAppLabels (e : Endpoints) : (contract c).Outline (system c) u
    (K8sCharm.updateAppLabels c cluster e) (Named cluster) (fun _ => Named cluster) := by
  refine Contract.outline_bind (outline_updateEach "primary" e.rw) (fun _ => ?_) (fun _ _ _ named => named)
  refine Contract.outline_bind (outline_updateEach "replicas" e.ro) (fun _ => ?_) (fun _ _ _ named => named)
  exact Contract.outline_bind (outline_updateEach "offline" e.no) (fun _ _ _ named => named) (fun _ _ _ named => named)

/-- Another name changes nothing. -/
theorem sound_named {w : World} (sound : Sound c w) (name : String) :
    Sound c { w with names := w.names ++ [name] } ∧ Evolves w { w with names := w.names ++ [name] } := by
  have more : w.names ⊆ w.names ++ [name] := List.subset_append_left _ _
  refine ⟨⟨sound.dated,sound.foreign,fun other pod there role has => ?_,fun role service there => ?_⟩,
    ⟨le_refl _,more,fun _ _ found _ => found,fun _ _ found => found⟩⟩
  · obtain ⟨app,cluster,named,labelled⟩ := sound.marked other pod there role has
    exact ⟨app,cluster,more named,labelled⟩
  · obtain ⟨cluster,named,same⟩ := sound.served role service there
    exact ⟨cluster,more named,same⟩

theorem fulfils : (contract c).Fulfils (system c) (duties c) where
  begins w u job w' sound begun := by
    cases begun
    obtain ⟨newSound,evolves⟩ := sound_named sound job.cluster
    exact ⟨newSound,evolves,List.mem_append_right _ (List.mem_singleton.mpr rfl)⟩
  finishes w u job r sound _ := ⟨sound,evolves_refl w⟩
  acts w a sound _ := acted sound a
  jobs u job := by
    cases job with
    | services cluster => exact Contract.outline_post outline_createAppServices fun r w _ done _ _ => done
    | labels cluster e => exact Contract.outline_post (outline_updateAppLabels e) fun r w _ _ => nofun
  lasts u job r := stable_evolves fun w w' evolves owed cluster isServices done =>
    ⟨served_evolves evolves (owed cluster isServices done).1,served_evolves evolves (owed cluster isServices done).2⟩

end

/-! ### Runs -/

/-- A service leads to the pods that have all the labels of its selector. -/
def Service.selects (service : Service) (pod : Pod) : Bool :=
  service.selector.all fun label => pod.labels.get label.1 == some label.2

theorem bound_run (c : Application) (labels : List (Label UnitId Job Request Response Failure Act)) :
    (contract c).Bound (system c) (duties c) ((system c).run (idle fresh) labels) :=
  Contract.bound_run fulfils (Contract.bound_idle (sound_fresh c)) labels (System.allAllowed_unrestricted _ _ _)

/-- A label is read with the pod and written with a patch, and still nothing is lost:
    whatever the order of the requests of all the units and of what the other programs
    do, the labels of these are as they have given them last. -/
theorem labels_merged (c : Application) (labels : List (Label UnitId Job Request Response Failure Act)) {name : String}
    {pod : Pod} (there : ((system c).run (idle fresh) labels).world.pods name = some pod) {key : String}
    (other : key ∉ ownKeys) : pod.labels.get key = ((system c).run (idle fresh) labels).world.given name key :=
  (bound_run c labels).1.foreign name pod there key other

def shop : Application := ⟨"shop",3306⟩

def granted : (c : Request) → Except Failure (Response c)
  | .create _ _ => .ok ()
  | .get _ => .ok ⟨0,Mapping.empty⟩
  | .patch _ _ => .ok ()

/-- A pod gets another zone between the read and the patch of a unit, which tries again. -/
def rezoned : List (Label UnitId Job Request Response Failure Act) :=
  [.act (.create "shop-0" [⟨"zone",(by decide),"a"⟩]),.start 0 (.labels "cluster" ⟨["shop-0.shop-endpoints"],[],[]⟩),
   .call 0 granted false,.act (.label "shop-0" ⟨"zone",(by decide),"b"⟩),.call 0 granted false,.stop 0] ++
    Label.whole 0 (.labels "cluster" ⟨["shop-0.shop-endpoints"],[],[]⟩) granted 2

theorem labels_merged_rezoned : ∃ pod, ((system shop).run (idle fresh) rezoned).world.pods "shop-0" = some pod ∧
    pod.labels.get "zone" = ((system shop).run (idle fresh) rezoned).world.given "shop-0" "zone" :=
  (Option.isSome_iff_exists.mp (by decide +kernel :
    (((system shop).run (idle fresh) rezoned).world.pods "shop-0").isSome = true)).imp
    fun _ there => ⟨there,labels_merged shop rezoned there (by decide)⟩

theorem create_services {w : World} {name : String} {service : Service} (there : w.services name = some service)
    (other : String) (new : Service) : (w.create other new).services name = some service := by
  unfold World.create
  split
  · rename_i free
    have apart : name ≠ other := by
      rintro rfl
      rw [there] at free
      cases free
    exact (update_of_ne apart _ _).trans there
  · exact there

theorem patch_services (w : World) (name : String) (pod : Pod) : (w.patch name pod).services = w.services := by
  unfold World.patch
  split
  · rfl
  · split <;> rfl

theorem act_services (w : World) (a : Act) : (w.act a).services = w.services := by
  cases a with
  | create | delete => rfl
  | label | unlabel =>
    simp only [World.act]
    split <;> rfl

/-- No step takes a service away or changes it. -/
theorem service_stays (c : Application) (name : String) (service : Service) :
    (system c).Stays (fun w => w.services name = some service) where
  begins w u job w' begun there := by
    cases begun
    exact there
  calls w u request r happened there := by
    show (w.effect request r happened).services name = some service
    unfold World.effect
    split
    · exact create_services there _ _
    · exact create_services there _ _
    · exact (congrFun (patch_services w _ _) name).trans there
    · exact (congrFun (patch_services w _ _) name).trans there
    · exact there
  ends _ _ _ _ there := there
  acts w a there := (congrFun (act_services w a) name).trans there

theorem selects_iff {c : Application} {w : World} (sound : Sound c w) {role name cluster : String} {pod : Pod}
    (there : w.pods name = some pod) : (K8sCharm.serviceOf c cluster role).selects pod = true ↔
      pod.labels.get "role" = some role ∧ pod.labels.get "cluster-name" = some cluster := by
  simp only [Service.selects,K8sCharm.serviceOf,roleLabels,List.all_cons,List.all_nil,Bool.and_true,Bool.and_eq_true,
    beq_iff_eq]
  constructor
  · exact fun all => ⟨all.2.2,all.2.1⟩
  · rintro ⟨has,named⟩
    exact ⟨(sound.marked name pod there role has).1,named,has⟩

/-- In every state the service of a role leads to exactly the pods that have the label of
    the role and the name that the cluster had when the service was created: while the
    cluster has had one name only, to the pods with the label of the role. Once
    `create_app_services` has succeeded both services are there, and stay as they are. -/
theorem services_select (c : Application) (labels : List (Label UnitId Job Request Response Failure Act)) :
    (∀ role service, ((system c).run (idle fresh) labels).world.services (K8sCharm.serviceName c role) = some service →
      ∃ cluster ∈ ((system c).run (idle fresh) labels).world.names, service = K8sCharm.serviceOf c cluster role ∧
        ∀ name pod, ((system c).run (idle fresh) labels).world.pods name = some pod →
          (service.selects pod = true ↔
            pod.labels.get "role" = some role ∧ pod.labels.get "cluster-name" = some cluster) ∧
          ((∀ other ∈ ((system c).run (idle fresh) labels).world.names, other = cluster) →
            (service.selects pod = true ↔ pod.labels.get "role" = some role))) ∧
      ∀ u cluster, ((system c).run (idle fresh) labels).result u = some (.services cluster,.ok true) →
        ∀ role, role = "primary" ∨ role = "replicas" → ∃ first, ∀ more,
          ((system c).run (idle fresh) (labels ++ more)).world.services (K8sCharm.serviceName c role) =
            some (K8sCharm.serviceOf c first role) := by
  have bound := bound_run c labels
  constructor
  · intro role service served
    obtain ⟨cluster,named,rfl⟩ := bound.1.served role service served
    refine ⟨cluster,named,rfl,fun name pod there => ⟨selects_iff bound.1 there,fun alone => ?_⟩⟩
    rw [selects_iff bound.1 there]
    refine and_iff_left_of_imp fun has => ?_
    obtain ⟨-,other,known,labelled⟩ := bound.1.marked name pod there role has
    rw [labelled,alone other known]
  · intro u cluster result
    obtain ⟨primary,replicas⟩ := Contract.duty_of_bound bound result cluster rfl rfl
    have stays {role : String} (served : Served c role ((system c).run (idle fresh) labels).world) :
        ∃ first, ∀ more, ((system c).run (idle fresh) (labels ++ more)).world.services (K8sCharm.serviceName c role) =
          some (K8sCharm.serviceOf c first role) := by
      obtain ⟨first,there⟩ := served
      refine ⟨first,fun more => ?_⟩
      rw [System.run,List.foldl_append]
      exact System.stays_run (service_stays c _ _) more there
    rintro role (rfl | rfl)
    · exact stays primary
    · exact stays replicas

end MysqlOperators.Routing
