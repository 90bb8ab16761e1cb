import MysqlOperators.Publication
import Mathlib.Data.List.Forall2
import Mathlib.Data.List.Nodup

/-!
The endpoints of a cluster on machines, as a partition of its topology. The loop of
`build_cluster_endpoints` is the fold of `Publication`; here its three lists are
compared with the instances of the topology that they stand for.
-/
namespace MysqlOperators.Topology
open MysqlOperators.Program MysqlOperators.Program.Prog MysqlOperators.External MysqlOperators.Clients
open MysqlOperators.Workload MysqlOperators.Helpers MysqlOperators.Scripted MysqlOperators.Publication

/-! ### The deployment -/

/-- A machine of the application, the peer relation as it sees it, and the status of
    its cluster. A topology has each label once. -/
structure Deployment where
  charm : Charm
  machine : charm.substrate = .vm
  peers : Option PeersRelation
  report : ClusterReport
  labels : (report.topology.map Prod.fst).Nodup
  modes : ∀ entry ∈ report.topology, entry.2.status = .online → entry.2.mode = "R/W" ∨ entry.2.mode = "R/O"

namespace Deployment
variable (d : Deployment)

def rules : Rules Unit Call Reply Exn where
  answer _ c r :=
    match c with
    | .peersRelation => .ok d.peers
    | .clusterStatus .own => .ok d.report
    | _ => r
  effect w _ _ _ := w

def units : List UnitId := unitsOf d.charm d.peers

def address : String → UnitId → String := peerAddress d.charm d.peers

/-- What the function returns. -/
def endpoints (script : Script Call Reply Exn) (relation : String) : Except Exn Endpoints :=
  (play d.rules script (buildClusterEndpoints d.charm relation) ()).1

/-- The endpoint of an instance that belongs to a known unit with an address. -/
def Places (relation : String) (entry : String × InstanceInfo) (endpoint : String) : Prop :=
  entry.2.status ≠ .recovering ∧ ∃ unit ∈ d.units, getUnitLabel d.charm unit = entry.1 ∧
    d.address relation unit ≠ "" ∧ endpoint = withPort (d.address relation unit)

/-- A list has the endpoints of the instances of a kind, in the order of the topology. -/
structure Sorted (relation : String) (kind : InstanceInfo → Prop) (instances : List (String × InstanceInfo))
    (listed : List String) : Prop where
  ordered : instances.Sublist d.report.topology
  members : ∀ entry ∈ d.report.topology, entry ∈ instances ↔ kind entry.2 ∧ ∃ endpoint, d.Places relation entry endpoint
  endpoints : List.Forall₂ (d.Places relation) instances listed

/-- The three lists have the endpoints of three kinds of instances, and each instance
    that has an endpoint is in one of them. -/
def Partitioned (relation : String) (e : Endpoints) : Prop :=
  ∃ rw ro no : List (String × InstanceInfo),
    d.Sorted relation (fun info => info.status = .online ∧ info.mode = "R/W") rw e.rw ∧
    d.Sorted relation (fun info => info.status = .online ∧ info.mode = "R/O") ro e.ro ∧
    d.Sorted relation (fun info => info.status ≠ .online) no e.no ∧
    ∀ entry ∈ d.report.topology, (∃ endpoint, d.Places relation entry endpoint) → (rw ++ ro ++ no).count entry = 1

end Deployment

/-! ### The lists -/

section
variable {α β : Type}

/-- The values of a filtered list, item by item. -/
theorem forall₂_filterMap (kind : α → Bool) (value : α → Option β) (l : List α) :
    List.Forall₂ (fun a b => kind a = true ∧ value a = some b) (l.filter (fun a => kind a && (value a).isSome))
      (l.filterMap (fun a => if kind a then value a else none)) := by
  induction l with
  | nil => exact .nil
  | cons a rest ih =>
    by_cases chosen : kind a = true
    · cases known : value a with
      | none => simpa [chosen,known] using ih
      | some b => simpa [chosen,known] using ih
    · simpa [chosen] using ih

/-- Three kinds that exclude each other count every item once. -/
theorem count_three [BEq α] [LawfulBEq α] {l : List α} (distinct : l.Nodup) {p q r : α → Bool} {a : α} (member : a ∈ l)
    (one : (p a = true ∧ q a = false ∧ r a = false) ∨ (p a = false ∧ q a = true ∧ r a = false) ∨
      (p a = false ∧ q a = false ∧ r a = true)) : (l.filter p ++ l.filter q ++ l.filter r).count a = 1 := by
  have once : l.count a = 1 := List.count_eq_one_of_mem distinct member
  have absent_ {k : α → Bool} (other : k a = false) : (l.filter k).count a = 0 :=
    List.count_eq_zero.mpr fun inside => by simpa [other] using (List.mem_filter.mp inside).2
  rw [List.count_append,List.count_append]
  rcases one with ⟨p,q,r⟩ | ⟨p,q,r⟩ | ⟨p,q,r⟩
  · rw [List.count_filter p,absent_ q,absent_ r,once]
  · rw [absent_ p,List.count_filter q,absent_ r,once]
  · rw [absent_ p,absent_ q,List.count_filter r,once]

end

section
variable {d : Deployment} {script : Script Call Reply Exn} {relation : String}

theorem getUnitAddress_run (unit : UnitId) (known : unit ∈ d.units) (s : Scene Unit Call) :
    ∃ s', run (respond d.rules script) (getUnitAddress d.charm unit relation) s =
      (.ok (d.address relation unit),s') :=
  ⟨_,run_getUnitAddress d.machine rfl relation unit (.inr known)⟩

/-- The function returns the endpoints of the topology. -/
theorem endpoints_eq (d : Deployment) (script : Script Call Reply Exn) (relation : String) :
    d.endpoints script relation =
      (let e := endpointsOf d.charm (d.address relation) d.units d.report.topology
       .ok ⟨e.rw.map withPort,e.ro.map withPort,e.no.map withPort⟩) := by
  have units : ∀ s : Scene Unit Call, ∃ s', run (respond d.rules script) (charmUnits d.charm) s = (.ok d.units,s') :=
    fun _ => ⟨_,run_charmUnits d.charm rfl⟩
  have fetched : run (respond d.rules script) (ClusterClient.fetchInstances .own) ⟨(),[]⟩ =
      (.ok d.report.topology,⟨(),[statusCall]⟩) := rfl
  obtain ⟨s₁,known⟩ := units ⟨(),[statusCall]⟩
  obtain ⟨s₂,collected,-⟩ := @collect_run Unit d.rules script d.charm (d.address relation) d.units relation
    (fun _ => True) (fun u member s _ => (getUnitAddress_run u member s).imp fun _ ran => ⟨ran,trivial⟩)
    d.report.topology ⟨[],[],[]⟩ s₁ trivial
  simp only [Deployment.endpoints,play,buildClusterEndpoints,run_bind,fetched,known,collected,run_pure]
  simp [prepended]

/-- The address that the loop looks up is the one of the instance's unit. -/
theorem places_iff {entry : String × InstanceInfo} {endpoint : String} : d.Places relation entry endpoint ↔
    entry.2.status ≠ .recovering ∧
      ∃ a, addressFor d.charm (d.address relation) d.units entry.1 = some a ∧ endpoint = withPort a := by
  refine and_congr_right fun _ => ?_
  constructor
  · rintro ⟨unit,known,label,addressed,rfl⟩
    refine ⟨d.address relation unit,?_,rfl⟩
    cases found : d.units.find? (fun u => getUnitLabel d.charm u = entry.1) with
    | none => simpa [label] using List.find?_eq_none.mp found unit known
    | some other =>
      have label' : getUnitLabel d.charm other = entry.1 := by simpa using List.find?_some found
      obtain rfl := label_injective d.charm (label'.trans label.symm)
      simp [addressFor,found,addressed]
  · rintro ⟨a,addressed,rfl⟩
    unfold addressFor at addressed
    split at addressed
    · cases addressed
    · rename_i unit found
      split at addressed
      · cases addressed
      · cases addressed
        exact ⟨unit,List.mem_of_find?_eq_some found,by simpa using List.find?_some found,‹_›,rfl⟩

/-- The instances of a kind that have an endpoint. -/
def placed (d : Deployment) (relation : String) (kind : InstanceInfo → Bool) (entry : String × InstanceInfo) : Bool :=
  kind entry.2 && (addressFor d.charm (d.address relation) d.units entry.1).isSome

/-- One list of the result. -/
theorem sorted_of {kind : InstanceInfo → Bool} {meaning : InstanceInfo → Prop}
    (means : ∀ info, kind info = true ↔ info.status ≠ .recovering ∧ meaning info) :
    d.Sorted relation meaning (d.report.topology.filter (placed d relation kind))
      ((addressesFor d.charm (d.address relation) d.units kind d.report.topology).map withPort) := by
  refine ⟨List.filter_sublist,fun entry member => ?_,?_⟩
  · rw [List.mem_filter,placed,Bool.and_eq_true,means,Option.isSome_iff_exists]
    constructor
    · rintro ⟨-,⟨steady,meant⟩,a,addressed⟩
      exact ⟨meant,withPort a,places_iff.mpr ⟨steady,a,addressed,rfl⟩⟩
    · rintro ⟨meant,endpoint,places⟩
      obtain ⟨steady,a,addressed,-⟩ := places_iff.mp places
      exact ⟨member,⟨steady,meant⟩,a,addressed⟩
  · rw [List.forall₂_map_right_iff]
    have pairs := forall₂_filterMap (fun entry : String × InstanceInfo => kind entry.2)
      (fun entry => addressFor d.charm (d.address relation) d.units entry.1) d.report.topology
    refine pairs.imp ?_
    rintro entry a ⟨chosen,addressed⟩
    exact places_iff.mpr ⟨((means entry.2).mp chosen).1,a,addressed,rfl⟩

/-- An instance with an endpoint is of one kind. -/
theorem one_kind {entry : String × InstanceInfo} (member : entry ∈ d.report.topology)
    (steady : entry.2.status ≠ .recovering) :
    (writable entry.2 = true ∧ readable entry.2 = false ∧ absent entry.2 = false) ∨
      (writable entry.2 = false ∧ readable entry.2 = true ∧ absent entry.2 = false) ∨
        (writable entry.2 = false ∧ readable entry.2 = false ∧ absent entry.2 = true) := by
  by_cases online : entry.2.status = .online
  · rcases d.modes entry member online with writes | reads
    · exact .inl (by simp [writable,readable,absent,online,writes])
    · exact .inr (.inl (by simp [writable,readable,absent,online,reads]))
  · exact .inr (.inr (by simp [writable,readable,absent,online,steady]))

end

/-- The endpoints partition the topology, whatever the rest of the outside world
    answers. -/
theorem endpoints_partition (d : Deployment) (script : Script Call Reply Exn) (relation : String) :
    ∃ e, d.endpoints script relation = .ok e ∧ d.Partitioned relation e := by
  refine ⟨_,endpoints_eq d script relation,_,_,_,@sorted_of d relation writable _ fun info => ?_,
    @sorted_of d relation readable _ fun info => ?_,@sorted_of d relation absent _ fun info => ?_,?_⟩
  · by_cases online : info.status = .online <;> simp [writable,online]
  · by_cases online : info.status = .online <;> simp [readable,online]
  · simp [absent]
  · intro entry member places
    obtain ⟨endpoint,places⟩ := places
    obtain ⟨steady,a,addressed,-⟩ := places_iff.mp places
    refine count_three (List.Nodup.of_map _ d.labels) member ?_
    simpa [placed,addressed] using one_kind member steady

/-- Four units, the last without an address, and an instance that belongs to none. -/
def mixed : Deployment where
  charm := ⟨.vm,"mysql",0,"cluster","10.0.0.10"⟩
  machine := rfl
  peers := some
    { units := [(2,[("database-address","10.0.0.3")]),(1,[("database-address","10.0.0.2")]),(3,[])]
      own := [("database-address","10.0.0.1")]
      place := 2 }
  report := ⟨.primary,.okPartial,some "10.0.0.2:3306",
    [("mysql-0",⟨.online,"R/O",none,none⟩),("mysql-1",⟨.online,"R/W",none,none⟩),("mysql-2",⟨.offline,"n/a",none,none⟩),
     ("mysql-3",⟨.online,"R/O",none,none⟩),("mysql-7",⟨.online,"R/O",none,none⟩)]⟩
  labels := by decide
  modes := by decide

def silent : Script Call Reply Exn where
  reply _ _ := .ok default
  takesEffect _ _ := false

theorem endpoints_partition_mixed :
    mixed.endpoints silent relationDatabase = .ok ⟨["10.0.0.2:3306"],["10.0.0.1:3306"],["10.0.0.3:3306"]⟩ ∧
      mixed.Partitioned relationDatabase ⟨["10.0.0.2:3306"],["10.0.0.1:3306"],["10.0.0.3:3306"]⟩ := by
  have lists : mixed.endpoints silent relationDatabase =
      .ok ⟨["10.0.0.2:3306"],["10.0.0.1:3306"],["10.0.0.3:3306"]⟩ := by decide +kernel
  obtain ⟨e,returned,partitioned⟩ := endpoints_partition mixed silent relationDatabase
  obtain rfl := Except.ok.inj (lists.symm.trans returned)
  exact ⟨lists,partitioned⟩

end MysqlOperators.Topology
