import MysqlOperators.Mappings
import MysqlOperators.Publication

/-!
The role labels of the pods. A call of `update_app_labels` writes a label for each
instance that the endpoint builder sorts, and no other; the labels of the pods that
it does not sort stay as they were. They are right after a call exactly when no
label of such a pod has become wrong.
-/
namespace MysqlOperators.RoleLabels
open MysqlOperators.Program MysqlOperators.Program.Prog MysqlOperators.External MysqlOperators.Clients
open MysqlOperators.Workload MysqlOperators.Helpers MysqlOperators.Scripted MysqlOperators.Publication

/-! ### Labels -/

abbrev Labels := Mapping String String

namespace ContainerRuntime

/-- What `update_labels` makes of the labels of a pod: one without labels stays
    without. -/
def relabel (labels : Labels) (more : List (String × String)) : Labels :=
  if labels.entries = [] then labels else labels.update more

end ContainerRuntime

namespace K8sCharm

/-- The labels of a role, which are also the selector of its service. -/
def roleLabels (app cluster role : String) : List (String × String) :=
  [("application-name",app),("cluster-name",cluster),("role",role)]

end K8sCharm

open RoleLabels.ContainerRuntime RoleLabels.K8sCharm

theorem get_relabel (labels : Labels) (more : List (String × String)) (key : String) :
    (relabel labels more).get key =
      if labels.entries = [] then labels.get key else (more.reverse.lookup key <|> labels.get key) := by
  unfold relabel
  by_cases bare : labels.entries = []
  · rw [if_pos bare,if_pos bare]
  · rw [if_neg bare,if_neg bare,Mapping.get_update]

theorem role_relabel {labels : Labels} (bare : labels.entries ≠ []) (app cluster role : String) :
    (relabel labels (roleLabels app cluster role)).get "role" = some role := by
  rw [get_relabel,if_neg bare]
  rfl

theorem get_bare {labels : Labels} (bare : labels.entries = []) (key : String) : labels.get key = none := by
  rw [Mapping.get,bare]
  rfl

theorem bare_relabel (labels : Labels) (app cluster role : String) :
    (relabel labels (roleLabels app cluster role)).entries = [] ↔ labels.entries = [] := by
  constructor
  · intro bare
    by_contra full
    have labelled := role_relabel full app cluster role
    rw [get_bare bare] at labelled
    cases labelled
  · intro bare
    rw [relabel,if_pos bare]
    exact bare

/-! ### The pods -/

/-- The peer relation, the domain of the application, its name and that of its cluster,
    and the labels of each pod; there are none where there is no pod. -/
structure Pods where
  peers : Option PeersRelation
  domain : String
  app : String
  cluster : String
  labels : String → Labels

namespace Pods

def role (w : Pods) (name : String) : Option String := (w.labels name).get "role"

def label (w : Pods) (name role : String) : Pods :=
  { w with labels := fun p => if p = name then relabel (w.labels p) (roleLabels w.app w.cluster role) else w.labels p }

theorem bare_label (w : Pods) (name role p : String) :
    ((w.label name role).labels p).entries = [] ↔ (w.labels p).entries = [] := by
  by_cases same : p = name
  · simp only [label,if_pos same,bare_relabel]
  · simp only [label,if_neg same]

theorem role_label (w : Pods) (name role : String) {p : String} (full : (w.labels p).entries ≠ []) :
    (w.label name role).role p = if p = name then some role else w.role p := by
  by_cases same : p = name
  · simp only [Pods.role,label,if_pos same,role_relabel full]
  · simp only [Pods.role,label,if_neg same]

end Pods

/-- The name service completes an address by the domain. -/
def podAnswer (w : Pods) : (c : Call) → Except Exn (Reply c) → Except Exn (Reply c)
  | .peersRelation, _ => .ok w.peers
  | .hostname address, .ok _ => .ok (address ++ "." ++ w.domain)
  | _, r => r

def podEffect (w : Pods) : (c : Call) → Except Exn (Reply c) → Bool → Pods
  | .updateLabels name role, .ok _, _ => w.label name role
  | .updateLabels name role, .error _, true => w.label name role
  | _, _, _ => w

def podRules : Rules Pods Call Reply Exn := ⟨podAnswer,podEffect⟩

/-- `address.split(".")[0]`. -/
def podName (address : String) : String := String.ofList (address.toList.takeWhile (· != '.'))

def podAddress (charm : Charm) (domain : String) (unit : UnitId) : String :=
  getUnitLabel charm unit ++ "." ++ charm.appName ++ "-endpoints" ++ "." ++ domain

/-- The name of an application has no dots. -/
def Dotless (charm : Charm) : Prop := '.' ∉ charm.appName.toList

section
variable {charm : Charm} (dotless : Dotless charm)
include dotless

theorem label_dotless (unit : UnitId) : '.' ∉ (getUnitLabel charm unit).toList := by
  have digits : '.' ∉ (toString unit).toList := by
    intro member
    have digit : ('.').isDigit = true := Nat.isDigit_of_mem_toDigits (by decide) (by decide)
      (show '.' ∈ Nat.toDigits 10 unit by simpa using member)
    simp [Char.isDigit] at digit
  intro member
  simp only [getUnitLabel,String.toList_ofList,List.mem_map] at member
  obtain ⟨c,inside,same⟩ := member
  by_cases slash : c = '/'
  · simp [slash] at same
  · rw [if_neg slash] at same
    subst same
    simp only [unitName,String.toList_append,List.mem_append] at inside
    rcases inside with (app | mark) | digit
    · exact dotless app
    · revert mark
      decide
    · exact digits digit

theorem podName_address (domain : String) (unit : UnitId) :
    podName (withPort (podAddress charm domain unit)) = getUnitLabel charm unit := by
  have dot : ".".toList = ['.'] := by decide
  have plain : ∀ c ∈ (getUnitLabel charm unit).toList, (c != '.') = true := by
    intro c member
    simp only [bne_iff_ne,ne_eq]
    rintro rfl
    exact label_dotless dotless unit member
  simp only [podName,withPort,podAddress,String.toList_append,dot,List.append_assoc,List.singleton_append]
  rw [List.takeWhile_append_of_pos plain]
  simp

end

/-! ### A call -/

/-- The label belongs to a unit of the application. -/
def known (charm : Charm) (w : Pods) (name : String) : Bool :=
  (unitsOf charm w.peers).any (fun u => getUnitLabel charm u == name)

/-- The builder sorts some instance with the name into a kind. -/
def listed (charm : Charm) (w : Pods) (kind : InstanceInfo → Bool) (topology : List (String × InstanceInfo))
    (name : String) : Bool := known charm w name && topology.any (fun entry => entry.1 == name && kind entry.2)

/-- The role labels after a call with a topology. -/
def relabelled (charm : Charm) (w : Pods) (topology : List (String × InstanceInfo)) (name : String) : Option String :=
  if (w.labels name).entries = [] then none
  else if listed charm w absent topology name then some "offline"
  else if listed charm w readable topology name then some "replicas"
  else if listed charm w writable topology name then some "primary"
  else w.role name

/-- Every pod with the label of a primary is ONLINE and writable, and every one with
    that of a replica is ONLINE and read-only. -/
def Truthful (topology : List (String × InstanceInfo)) (role : String → Option String) : Prop :=
  ∀ name, (role name = some "primary" → topology.any (fun entry => entry.1 == name && writable entry.2) = true) ∧
    (role name = some "replicas" → topology.any (fun entry => entry.1 == name && readable entry.2) = true)

/-- The labels of the pods that the call does not sort are still right. -/
def Covered (charm : Charm) (w : Pods) (topology : List (String × InstanceInfo)) : Prop :=
  ∀ name, listed charm w (fun info => writable info || readable info || absent info) topology name = false →
    (w.role name = some "primary" → topology.any (fun entry => entry.1 == name && writable entry.2) = true) ∧
    (w.role name = some "replicas" → topology.any (fun entry => entry.1 == name && readable entry.2) = true)

theorem listed_or (charm : Charm) (w : Pods) (topology : List (String × InstanceInfo)) (name : String) :
    listed charm w (fun info => writable info || readable info || absent info) topology name =
      (listed charm w writable topology name || listed charm w readable topology name ||
        listed charm w absent topology name) := by
  rw [Bool.eq_iff_iff]
  simp only [listed,Bool.and_eq_true,Bool.or_eq_true,List.any_eq_true]
  grind

theorem relabelled_truthful_iff (charm : Charm) (w : Pods) (topology : List (String × InstanceInfo)) :
    Truthful topology (relabelled charm w topology) ↔ Covered charm w topology := by
  refine forall_congr' fun name => ?_
  by_cases bare : (w.labels name).entries = []
  · have none_ : w.role name = none := get_bare bare "role"
    simp [relabelled,bare,none_]
  rw [listed_or]
  by_cases off : listed charm w absent topology name = true
  · simp [relabelled,bare,off]
  · by_cases reads : listed charm w readable topology name = true
    · have entry := (Bool.and_eq_true_iff.mp reads).2
      simp [relabelled,bare,off,reads,entry]
    · by_cases writes : listed charm w writable topology name = true
      · have entry := (Bool.and_eq_true_iff.mp writes).2
        simp [relabelled,bare,off,reads,writes,entry]
      · simp [relabelled,bare,off,reads,writes]

/-- The world after a label is written for each address. -/
def labelEach (role : String) (addresses : List String) (w : Pods) : Pods :=
  addresses.foldl (fun w address => w.label (podName address) role) w

theorem labelEach_bare (role : String) (addresses : List String) (w : Pods) (name : String) :
    ((labelEach role addresses w).labels name).entries = [] ↔ (w.labels name).entries = [] := by
  induction addresses generalizing w with
  | nil => rfl
  | cons address rest ih => exact (ih _).trans (w.bare_label (podName address) role name)

theorem labelEach_role (role : String) (addresses : List String) (w : Pods) {name : String}
    (full : (w.labels name).entries ≠ []) :
    (labelEach role addresses w).role name = if name ∈ addresses.map podName then some role else w.role name := by
  induction addresses generalizing w with
  | nil => simp [labelEach]
  | cons address rest ih =>
    have next : labelEach role (address :: rest) w = labelEach role rest (w.label (podName address) role) := rfl
    rw [next,ih _ (by rw [ne_eq,Pods.bare_label]; exact full),Pods.role_label _ _ _ full]
    by_cases later : name ∈ rest.map podName
    · simp [later]
    · by_cases first : name = podName address <;> simp [later,first]

section
variable {script : Script Call Reply Exn} {charm : Charm} {w : Pods}

theorem labelEach_triple (role : String) (addresses : List String) (w : Pods) :
    Triple podRules script (fun s => s.world = w)
      (addresses.forM fun address => ask (.updateLabels (podName address) role))
      (fun _ s => s.world = labelEach role addresses w) := by
  induction addresses generalizing w with
  | nil => exact triple_ret fun s same => same
  | cons address rest ih =>
    refine triple_bind (triple_perform (Q := fun _ s => s.world = w.label (podName address) role) ?_) fun _ => ih _
    rintro s raw a happened rfl answered
    rfl

/-- The pods that the endpoint builder sorts into a kind. -/
theorem listed_iff (dotless : Dotless charm) (kind : InstanceInfo → Bool) (topology : List (String × InstanceInfo))
    (name : String) :
    name ∈ ((addressesFor charm (podAddress charm w.domain) (unitsOf charm w.peers) kind topology).map withPort).map
        podName ↔ listed charm w kind topology name = true := by
  have nonempty (unit : UnitId) : podAddress charm w.domain unit ≠ "" := by
    intro empty
    have none := congrArg (fun s => '.' ∈ s.toList) empty
    simp [podAddress] at none
  have addressed (label : String) (address : String) :
      addressFor charm (podAddress charm w.domain) (unitsOf charm w.peers) label = some address →
        podName (withPort address) = label := by
    intro found
    unfold addressFor at found
    split at found
    · cases found
    · rename_i unit first
      rw [if_neg (nonempty unit)] at found
      obtain rfl := Option.some.inj found
      rw [podName_address dotless]
      simpa using List.find?_some first
  have resolvable (label : String) : known charm w label = true ↔
      ∃ address, addressFor charm (podAddress charm w.domain) (unitsOf charm w.peers) label = some address := by
    unfold addressFor known
    cases first : (unitsOf charm w.peers).find? (fun u => getUnitLabel charm u = label) with
    | none => simpa using first
    | some unit =>
      have member := List.mem_of_find?_eq_some first
      have same := List.find?_some first
      simp only [nonempty unit,if_false,Option.some.injEq,exists_eq',iff_true,List.any_eq_true]
      exact ⟨unit,member,by simpa using same⟩
  simp only [listed,Bool.and_eq_true,resolvable,addressesFor,List.map_map,List.mem_map,List.mem_filterMap,
    List.any_eq_true,beq_iff_eq,Function.comp]
  constructor
  · rintro ⟨address,⟨⟨label,info⟩,member,chosen⟩,rfl⟩
    simp only at chosen
    split at chosen
    · rw [addressed label address chosen]
      exact ⟨⟨address,chosen⟩,(label,info),member,rfl,by assumption⟩
    · cases chosen
  · rintro ⟨⟨address,found⟩,⟨label,info⟩,member,rfl,holds⟩
    exact ⟨address,⟨(label,info),member,by simpa [holds] using found⟩,addressed _ _ found⟩

theorem fetchInstances_triple :
    Triple podRules script (fun s => s.world = w ∧ s.log.count statusCall = 0) (ClusterClient.fetchInstances .own)
      (fun topology s => topologyOf (script.reply statusCall 0) = some topology ∧ s.world = w) := by
  rintro s topology s' ⟨rfl,count⟩ ends
  rw [ClusterClient.fetchInstances,run_tryElse,run_perform] at ends
  simp only [respond,podRules,podAnswer,podEffect,count] at ends
  rcases h : script.reply statusCall 0 with e | report
  · rw [h] at ends
    by_cases caught : e.isExecutionError = true
    · simp only [caught,if_true,run_pure,Prod.mk.injEq,Except.ok.injEq] at ends
      obtain ⟨rfl,rfl⟩ := ends
      exact ⟨by simp [topologyOf,caught],rfl⟩
    · simp [caught] at ends
  · simp only [h,run_pure,Prod.mk.injEq,Except.ok.injEq] at ends
    obtain ⟨rfl,rfl⟩ := ends
    exact ⟨rfl,rfl⟩

theorem charmUnits_triple :
    Triple podRules script (fun s => s.world = w) (charmUnits charm)
      (fun units s => units = unitsOf charm w.peers ∧ s.world = w) := by
  rintro s units s' rfl ends
  have asked : respond podRules script s .peersRelation = (.ok s.world.peers,⟨s.world,s.log ++ [.peersRelation]⟩) := rfl
  rw [run_charmUnits charm asked] at ends
  cases ends
  exact ⟨rfl,rfl⟩

/-- The name service answers for a unit with its pod's address, or the call fails. -/
theorem getUnitAddress_triple (k8s : charm.substrate = .k8s) (u : UnitId) (relation : String) :
    Triple podRules script (fun s => s.world = w) (getUnitAddress charm u relation)
      (fun a s => a = podAddress charm w.domain u ∧ s.world = w) := by
  rintro s a s' rfl ends
  simp only [getUnitAddress,k8s,run_bind,run_perform,respond,podRules] at ends
  generalize script.reply (.hostname _) _ = raw at ends
  cases raw with
  | error e =>
    simp only [podAnswer] at ends
    cases ends
  | ok found =>
    simp only [podAnswer] at ends
    split at ends
    · rw [run_pure,Prod.mk.injEq,Except.ok.injEq] at ends
      obtain ⟨rfl,rfl⟩ := ends
      exact ⟨rfl,rfl⟩
    · simp at ends

/-- The addresses of the pods that the endpoint builder sorts, by kind. -/
def sortedPods (charm : Charm) (w : Pods) (topology : List (String × InstanceInfo)) : Endpoints :=
  let e := endpointsOf charm (podAddress charm w.domain) (unitsOf charm w.peers) topology
  ⟨e.rw.map withPort,e.ro.map withPort,e.no.map withPort⟩

theorem buildClusterEndpoints_triple (k8s : charm.substrate = .k8s) :
    Triple podRules script (fun s => s.world = w ∧ s.log.count statusCall = 0)
      (buildClusterEndpoints charm relationDatabase)
      (fun e s => (∃ topology, topologyOf (script.reply statusCall 0) = some topology ∧
        e = sortedPods charm w topology) ∧ s.world = w) := by
  refine triple_bind fetchInstances_triple fun topology => ?_
  rintro s e s' ⟨first,same⟩ ends
  have sorted : Triple podRules script (fun s => s.world = w)
      (do let e ← collectEndpoints charm (unitsOf charm w.peers) relationDatabase ⟨[],[],[]⟩ topology
          pure (⟨e.rw.map withPort,e.ro.map withPort,e.no.map withPort⟩ : Endpoints))
      (fun e s => e = sortedPods charm w topology ∧ s.world = w) := by
    refine triple_bind (collect_triple
      (fun u _ => getUnitAddress_triple k8s u relationDatabase) topology _) fun f => triple_ret fun s known => ?_
    obtain ⟨rfl,world⟩ := known
    exact ⟨by simp [prepended,sortedPods],world⟩
  have built : Triple podRules script (fun s => s.world = w)
      (do let units ← charmUnits charm
          let e ← collectEndpoints charm units relationDatabase ⟨[],[],[]⟩ topology
          pure (⟨e.rw.map withPort,e.ro.map withPort,e.no.map withPort⟩ : Endpoints))
      (fun e s => e = sortedPods charm w topology ∧ s.world = w) := by
    refine triple_bind charmUnits_triple fun units => ?_
    rintro s e s' ⟨rfl,same⟩ ends
    exact sorted s e s' same ends
  obtain ⟨rfl,world⟩ := built s e s' same ends
  exact ⟨⟨topology,first,rfl⟩,world⟩

/-- A call that completes has fetched a topology, or made an empty one of a failed
    query, and writes the labels of the pods that it sorts. -/
theorem updateAppLabels_triple (k8s : charm.substrate = .k8s) (dotless : Dotless charm) :
    Triple podRules script (fun s => s.world = w ∧ s.log.count statusCall = 0) (updateAppLabels charm)
      (fun _ s => ∃ topology, topologyOf (script.reply statusCall 0) = some topology ∧
        s.world.role = relabelled charm w topology) := by
  -- the labels of the three kinds, the last one written first in the cases of `relabelled`
  have written (topology : List (String × InstanceInfo)) :
      (labelEach "offline" (sortedPods charm w topology).no
        (labelEach "replicas" (sortedPods charm w topology).ro
          (labelEach "primary" (sortedPods charm w topology).rw w))).role = relabelled charm w topology := by
    funext name
    by_cases bare : (w.labels name).entries = []
    · rw [relabelled,if_pos bare]
      exact get_bare (by simp only [labelEach_bare,bare]) "role"
    · rw [labelEach_role _ _ _ (by simp only [ne_eq,labelEach_bare]; exact bare),
        labelEach_role _ _ _ (by simp only [ne_eq,labelEach_bare]; exact bare),labelEach_role _ _ _ bare]
      simp only [sortedPods,endpointsOf,relabelled,listed_iff dotless,if_neg bare]
  rw [updateAppLabels,k8s]
  refine triple_bind (buildClusterEndpoints_triple k8s) fun e => ?_
  rintro s u s' ⟨⟨topology,first,rfl⟩,same⟩ ends
  have labels := triple_bind (@labelEach_triple script "primary" _ w) (fun _ =>
    triple_bind (labelEach_triple "replicas" _ _) (fun _ => labelEach_triple "offline" _ _)) s u s' same ends
  refine ⟨topology,first,?_⟩
  rw [labels]
  exact written topology

/-! ### Rounds of calls -/

/-- A call, what its calls answer, the peer relation and the cluster's name of its
    moment, and the pods that were deleted, or created anew, since the call before, with
    the labels that they have. -/
structure Round where
  script : Script Call Reply Exn
  peers : Option PeersRelation
  cluster : String
  replaced : List (String × Labels)

namespace Round

def before (r : Round) (charm : Charm) (domain : String) (labels : String → Labels) : Pods :=
  ⟨r.peers,domain,charm.appName,r.cluster,fun name => (r.replaced.lookup name).getD (labels name)⟩

def ended (r : Round) (charm : Charm) (domain : String) (labels : String → Labels) : Except Exn Unit × Scene Pods Call :=
  play podRules r.script (updateAppLabels charm) (r.before charm domain labels)

/-- The call fetches a topology and completes. -/
def Completes (r : Round) (charm : Charm) (domain : String) (labels : String → Labels) (report : ClusterReport) : Prop :=
  (r.ended charm domain labels).1 = .ok () ∧ r.script.reply statusCall 0 = .ok report

end Round

/-- Every round of a run has a property, with the labels that it starts from. -/
def AllRounds (charm : Charm) (domain : String) (P : Round → (String → Labels) → Prop) :
    List Round → (String → Labels) → Prop
  | [], _ => True
  | r :: rest, labels => P r labels ∧ AllRounds charm domain P rest (r.ended charm domain labels).2.world.labels

/-- After every call that completes, the labels are those of its topology. -/
def AlwaysTruthful (charm : Charm) (domain : String) : List Round → (String → Labels) → Prop :=
  AllRounds charm domain fun r labels => ∀ report, r.Completes charm domain labels report →
    Truthful report.topology (r.ended charm domain labels).2.world.role

/-- Before every call that completes, the labels of the pods that its topology does
    not sort are right. -/
def AlwaysCovered (charm : Charm) (domain : String) : List Round → (String → Labels) → Prop :=
  AllRounds charm domain fun r labels => ∀ report, r.Completes charm domain labels report →
    Covered charm (r.before charm domain labels) report.topology

theorem round_iff (k8s : charm.substrate = .k8s) (dotless : Dotless charm) {domain : String} {r : Round}
    {labels : String → Labels} {report : ClusterReport} (completes : r.Completes charm domain labels report) :
    Truthful report.topology (r.ended charm domain labels).2.world.role ↔
      Covered charm (r.before charm domain labels) report.topology := by
  obtain ⟨ended,fetched⟩ := completes
  have same : r.ended charm domain labels = (.ok (),(r.ended charm domain labels).2) := Prod.ext ended rfl
  obtain ⟨topology,first,roles⟩ := updateAppLabels_triple k8s dotless _ _ _ ⟨rfl,rfl⟩ same
  have known : topology = report.topology := by
    rw [fetched] at first
    cases first
    rfl
  rw [roles,known]
  exact relabelled_truthful_iff _ _ _

theorem allRounds_congr {domain : String} {P Q : Round → (String → Labels) → Prop}
    (same : ∀ r labels, P r labels ↔ Q r labels) (rounds : List Round) (labels : String → Labels) :
    AllRounds charm domain P rounds labels ↔ AllRounds charm domain Q rounds labels := by
  induction rounds generalizing labels with
  | nil => rfl
  | cons r rest ih => exact and_congr (same r labels) (ih _)

end

/-- In every sequence of topologies and calls, the labels are right after each call
    exactly when each call finds right those of the pods that it skips. -/
theorem alwaysTruthful_iff (charm : Charm) (domain : String) (rounds : List Round) (labels : String → Labels)
    (k8s : charm.substrate = .k8s) (dotless : Dotless charm) :
    AlwaysTruthful charm domain rounds labels ↔ AlwaysCovered charm domain rounds labels := by
  refine allRounds_congr (fun r labels => ?_) rounds labels
  exact forall_congr' fun report => forall_congr' fun completes => round_iff k8s dotless completes

def podCharm : Charm := ⟨.k8s,"mysql-k8s",0,"cluster","mysql-k8s-0"⟩

def topologyRound (topology : List (String × InstanceInfo)) : Round where
  script := ⟨fun c _ => match c with
    | .clusterStatus _ => .ok ⟨.primary,.ok,none,topology⟩
    | _ => .ok default,fun _ _ => false⟩
  peers := some ⟨[(1,[])],[],0⟩
  cluster := "cluster"
  replaced := []

/-- Pods as Kubernetes creates them for the application. -/
def unlabelled (_ : String) : Labels := Mapping.empty.update [("app.kubernetes.io/name","mysql-k8s")]

/-- The primary recovers as the other member takes over. -/
def failover : List Round :=
  [topologyRound [("mysql-k8s-0",⟨.online,"R/W",none,none⟩),("mysql-k8s-1",⟨.online,"R/O",none,none⟩)],
   topologyRound [("mysql-k8s-0",⟨.recovering,"R/O",none,none⟩),("mysql-k8s-1",⟨.online,"R/W",none,none⟩)]]

theorem alwaysTruthful_iff_failover :
    AlwaysTruthful podCharm "model.svc.cluster.local" failover unlabelled ↔
      AlwaysCovered podCharm "model.svc.cluster.local" failover unlabelled :=
  alwaysTruthful_iff podCharm "model.svc.cluster.local" failover unlabelled rfl (by unfold Dotless; decide)

/-- The old primary is still labelled as such when the second call is over. -/
theorem failover_stale : ¬ AlwaysTruthful podCharm "model.svc.cluster.local" failover unlabelled := by
  rintro ⟨_,second,_⟩
  have completes : (failover[1].ended podCharm "model.svc.cluster.local" (failover[0].ended podCharm
      "model.svc.cluster.local" unlabelled).2.world.labels).1 = .ok () := by decide +kernel
  have stale : (failover[1].ended podCharm "model.svc.cluster.local" (failover[0].ended podCharm
      "model.svc.cluster.local" unlabelled).2.world.labels).2.world.role "mysql-k8s-0" = some "primary" := by
    decide +kernel
  have right := (second _ ⟨completes,rfl⟩ "mysql-k8s-0").1 stale
  revert right
  decide +kernel

end MysqlOperators.RoleLabels
