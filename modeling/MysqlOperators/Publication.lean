import MysqlOperators.Quiet
import MysqlOperators.Scripted

/-!
The endpoints in the database relations. The loop that sorts a topology into
endpoints is a fold whatever the addresses come from (`collect_run`). On machines
they come from the peer databags, which do not change during a hook, and every
relation with units is written from a status query of its own, so its endpoints
are those of the topology that this query fetched, or none if the query failed.
-/
namespace MysqlOperators.Publication
open MysqlOperators.Program MysqlOperators.Program.Prog MysqlOperators.External MysqlOperators.Clients
open MysqlOperators.Workload MysqlOperators.Helpers MysqlOperators.Quiet MysqlOperators.Scripted

/-! ### The endpoints of a topology -/

section
variable (charm : Charm) (address : UnitId → String) (units : List UnitId)

/-- The address of the unit with a label, if it has one. -/
def addressFor (label : String) : Option String :=
  match units.find? (fun u => getUnitLabel charm u = label) with
  | none => none
  | some unit => if address unit = "" then none else some (address unit)

/-- The addresses of the instances of a kind. -/
def addressesFor (kind : InstanceInfo → Bool) (topology : List (String × InstanceInfo)) : List String :=
  topology.filterMap (fun entry => if kind entry.2 then addressFor charm address units entry.1 else none)

def writable (info : InstanceInfo) : Bool := info.status == .online && info.mode == "R/W"
def readable (info : InstanceInfo) : Bool := info.status == .online && info.mode == "R/O"
def absent (info : InstanceInfo) : Bool := info.status != .recovering && info.status != .online

def endpointsOf (topology : List (String × InstanceInfo)) : Endpoints :=
  ⟨addressesFor charm address units writable topology,addressesFor charm address units readable topology,
   addressesFor charm address units absent topology⟩

/-- The loop adds what the rest of the topology contributes. -/
theorem addressesFor_cons (kind : InstanceInfo → Bool) (entry : String × InstanceInfo)
    (rest : List (String × InstanceInfo)) : addressesFor charm address units kind (entry :: rest) =
      (if kind entry.2 then (addressFor charm address units entry.1).toList else []) ++
        addressesFor charm address units kind rest := by
  cases h : kind entry.2 with
  | false => simp [addressesFor,h]
  | true => cases h' : addressFor charm address units entry.1 <;> simp [addressesFor,h,h']

/-- Endpoints before those of a topology. -/
def prepended (e : Endpoints) (topology : List (String × InstanceInfo)) : Endpoints :=
  let f := endpointsOf charm address units topology
  ⟨e.rw ++ f.rw,e.ro ++ f.ro,e.no ++ f.no⟩

end

section
variable {W : Type} {rules : Rules W Call Reply Exn} {script : Script Call Reply Exn} {charm : Charm}
variable {address : UnitId → String} {units : List UnitId} {relation : String} {P : Scene W Call → Prop}

/-- An instance that is not sorted into any kind. -/
def Skipped (charm : Charm) (address : UnitId → String) (units : List UnitId) (label : String) (info : InstanceInfo) :
    Prop := info.status = .recovering ∨ addressFor charm address units label = none

theorem prepended_skipped {label : String} {info : InstanceInfo} (skipped : Skipped charm address units label info)
    (e : Endpoints) (rest : List (String × InstanceInfo)) :
    prepended charm address units e ((label,info) :: rest) = prepended charm address units e rest := by
  rcases skipped with recovering | none
  · simp [prepended,endpointsOf,addressesFor_cons,writable,readable,absent,recovering]
  · simp [prepended,endpointsOf,addressesFor_cons,none]

theorem prepended_added {label : String} {info : InstanceInfo} {found : String} (other : info.status ≠ .recovering)
    (addressed : addressFor charm address units label = some found) (e : Endpoints)
    (rest : List (String × InstanceInfo)) :
    prepended charm address units e ((label,info) :: rest) =
      prepended charm address units (e.add info found) rest := by
  by_cases online : info.status = .online
  · by_cases writes : info.mode = "R/W"
    · simp [prepended,endpointsOf,addressesFor_cons,addressed,Endpoints.add,writable,readable,absent,online,writes]
    · by_cases reads : info.mode = "R/O" <;>
        simp [prepended,endpointsOf,addressesFor_cons,addressed,Endpoints.add,writable,readable,absent,online,writes,
          reads]
  · simp [prepended,endpointsOf,addressesFor_cons,addressed,Endpoints.add,writable,readable,absent,online,other]

/-- The loop of `build_cluster_endpoints`, where the addresses of the units resolve. -/
theorem collect_run (resolves : ∀ u ∈ units, ∀ s, P s →
      ∃ s', run (respond rules script) (getUnitAddress charm u relation) s = (.ok (address u),s') ∧ P s')
    (topology : List (String × InstanceInfo)) (e : Endpoints) (s : Scene W Call) (before : P s) :
    ∃ s', run (respond rules script) (collectEndpoints charm units relation e topology) s =
      (.ok (prepended charm address units e topology),s') ∧ P s' := by
  induction topology generalizing e s with
  | nil => exact ⟨s,by simp [collectEndpoints,prepended,endpointsOf,addressesFor],before⟩
  | cons entry rest ih =>
    obtain ⟨label,info⟩ := entry
    by_cases recovering : info.status = .recovering
    · rw [collectEndpoints,if_pos recovering,prepended_skipped (.inl recovering)]
      exact ih e s before
    · rw [collectEndpoints,if_neg recovering]
      cases found : units.find? (fun u => getUnitLabel charm u = label) with
      | none =>
        rw [prepended_skipped (.inr (by simp [addressFor,found]))]
        exact ih e s before
      | some unit =>
        obtain ⟨s₁,resolved,between⟩ := resolves unit (List.mem_of_find?_eq_some found) s before
        simp only [run_bind,resolved]
        by_cases empty : address unit = ""
        · rw [prepended_skipped (.inr (by simp [addressFor,found,empty])),if_pos empty]
          exact ih e s₁ between
        · rw [@prepended_added _ _ _ _ _ (address unit) recovering (by simp [addressFor,found,empty]),if_neg empty]
          exact ih _ s₁ between

/-- The same loop, where they may also fail to resolve. -/
theorem collect_triple (resolves : ∀ u ∈ units, Triple rules script P (getUnitAddress charm u relation)
      (fun a s => a = address u ∧ P s)) (topology : List (String × InstanceInfo)) (e : Endpoints) :
    Triple rules script P (collectEndpoints charm units relation e topology)
      (fun f s => f = prepended charm address units e topology ∧ P s) := by
  induction topology generalizing e with
  | nil =>
    exact triple_ret fun s before => ⟨by simp [prepended,endpointsOf,addressesFor],before⟩
  | cons entry rest ih =>
    obtain ⟨label,info⟩ := entry
    by_cases recovering : info.status = .recovering
    · rw [collectEndpoints,if_pos recovering,prepended_skipped (.inl recovering)]
      exact ih e
    · rw [collectEndpoints,if_neg recovering]
      cases found : units.find? (fun u => getUnitLabel charm u = label) with
      | none =>
        rw [prepended_skipped (.inr (by simp [addressFor,found]))]
        exact ih e
      | some unit =>
        refine triple_bind (resolves unit (List.mem_of_find?_eq_some found)) fun a => ?_
        intro s f s' before ends
        obtain ⟨rfl,between⟩ := before
        by_cases empty : address unit = ""
        · rw [prepended_skipped (.inr (by simp [addressFor,found,empty]))]
          rw [if_pos empty] at ends
          exact ih e s f s' between ends
        · rw [@prepended_added _ _ _ _ _ (address unit) recovering (by simp [addressFor,found,empty])]
          rw [if_neg empty] at ends
          exact ih _ s f s' between ends

end

/-! ### The relations -/

/-- The peer relation, the database relations with whether units joined them, and
    the read-write and read-only endpoints in each. -/
structure World where
  peers : Option PeersRelation
  relations : List (Nat × Bool)
  distinct : (relations.map Prod.fst).Nodup
  published : Nat → String × String

def World.publish (w : World) (relation : Nat) (endpoints : String × String) : World :=
  { w with published := fun r => if r = relation then endpoints else w.published r }

/-- What a hook sees of Juju stays as it was when the hook began. -/
def answer (w : World) : (c : Call) → Except Exn (Reply c) → Except Exn (Reply c)
  | .peersRelation, _ => .ok w.peers
  | .databaseRelations, _ => .ok w.relations
  | .setEndpoints _ _, _ => .ok ()
  | .setReadOnlyEndpoints _ _, _ => .ok ()
  | _, r => r

def effect (w : World) : (c : Call) → Except Exn (Reply c) → Bool → World
  | .setEndpoints relation addresses, _, _ => w.publish relation (addresses,(w.published relation).2)
  | .setReadOnlyEndpoints relation addresses, _, _ => w.publish relation ((w.published relation).1,addresses)
  | _, _, _ => w

def rules : Rules World Call Reply Exn := ⟨answer,effect⟩

abbrev statusCall : Call := .clusterStatus .own

/-- The texts of the read-write and the read-only endpoints of a topology. -/
def publishedFor (charm : Charm) (peers : Option PeersRelation) (topology : List (String × InstanceInfo)) :
    String × String :=
  let e := endpointsOf charm (peerAddress charm peers relationDatabase) (unitsOf charm peers) topology
  (",".intercalate (e.rw.map withPort),",".intercalate (e.ro.map withPort))

/-- The topology that the charm makes of the answer to a status query, if the hook
    goes on. -/
def topologyOf : Except Exn ClusterReport → Option (List (String × InstanceInfo))
  | .ok report => some report.topology
  | .error e => if e.isExecutionError then some [] else none

section
variable (script : Script Call Reply Exn) (charm : Charm)

/-- The checks of `update_database_endpoints`. -/
def mayPublish : Hook Bool := do
  if ← initialized charm then
    if ← isLeader then
      let refreshing ← ask .refreshing
      pure (!refreshing)
    else pure false
  else pure false

/-- The rest of it on machines. -/
def publishEach (relations : List (Nat × Bool)) : Hook Unit :=
  relations.forM fun relation => if relation.2 then updateRelationEndpoints charm relation.1 else pure ()

theorem updateDatabaseEndpoints_eq (machine : charm.substrate = .vm) :
    updateDatabaseEndpoints charm = mayPublish charm >>= fun b =>
      if b then ask .databaseRelations >>= publishEach charm else pure () := by
  have labels : updateAppLabels charm = pure () := by simp [updateAppLabels,machine]
  simp only [updateDatabaseEndpoints,mayPublish,bind_assoc,labels,pure_bind]
  refine congrArg (initialized charm >>= ·) (funext fun b => ?_)
  cases b with
  | false => simp
  | true =>
    simp only [if_true,bind_assoc]
    refine congrArg (isLeader >>= ·) (funext fun b => ?_)
    cases b with
    | false => simp
    | true =>
      simp only [if_true,bind_assoc,pure_bind]
      refine congrArg (ask .refreshing >>= ·) (funext fun b => ?_)
      cases b with
      | true => simp
      | false =>
        simp only [Bool.not_false,if_true]
        refine congrArg (ask .databaseRelations >>= ·) (funext fun relations => ?_)
        cases relations with
        | nil => rfl
        | cons r rest => rfl

/-! ### One relation -/

variable {script charm}

theorem publish_publish (w : World) (relation : Nat) (first second : String × String) :
    (w.publish relation first).publish relation second = w.publish relation second := by
  simp only [World.publish,World.mk.injEq,true_and]
  funext r
  split <;> rfl

@[simp] theorem publish_same (w : World) (relation : Nat) (endpoints : String × String) :
    (w.publish relation endpoints).published relation = endpoints := by simp [World.publish]

theorem publish_other (w : World) {relation r : Nat} (endpoints : String × String) (other : r ≠ relation) :
    (w.publish relation endpoints).published r = w.published r := by simp [World.publish,other]

/-- A scene of the hook: the world, and the number of status queries so far. -/
def At (w : World) (k : Nat) (s : Scene World Call) : Prop := s.world = w ∧ s.log.count statusCall = k

theorem at_call {w : World} {k : Nat} {s : Scene World Call} (at_ : At w k s) {c : Call} (other : c ≠ statusCall)
    (same : effect w c (answer w c (script.reply c (s.log.count c))) (script.takesEffect c (s.log.count c)) = w) :
    run (respond rules script) (ask c) s = (answer w c (script.reply c (s.log.count c)),⟨w,s.log ++ [c]⟩) ∧
      At w k ⟨w,s.log ++ [c]⟩ := by
  obtain ⟨world,count⟩ := at_
  refine ⟨?_,rfl,by simp [other,count]⟩
  rw [run_perform,respond,rules,world]
  simp only [same]

theorem getUnitAddress_run (machine : charm.substrate = .vm) {w : World} {k : Nat} (unit : UnitId)
    (known : unit ∈ unitsOf charm w.peers) (s : Scene World Call) (at_ : At w k s) :
    ∃ s', run (respond rules script) (getUnitAddress charm unit relationDatabase) s =
      (.ok (peerAddress charm w.peers relationDatabase unit),s') ∧ At w k s' := by
  obtain ⟨asked,after⟩ := @at_call script w k s at_ .peersRelation (by decide) rfl
  rw [run_perform] at asked
  exact ⟨_,run_getUnitAddress machine asked relationDatabase unit (.inr known),after⟩

/-- The endpoints of one relation are those of the topology of its own query. -/
theorem relation_run (machine : charm.substrate = .vm) {w : World} {k : Nat} (relation : Nat) (s : Scene World Call)
    (at_ : At w k s) :
    match topologyOf (script.reply statusCall k) with
    | some topology => ∃ s', run (respond rules script) (updateRelationEndpoints charm relation) s = (.ok (),s') ∧
        At (w.publish relation (publishedFor charm w.peers topology)) (k+1) s'
    | none => ∃ e s', run (respond rules script) (updateRelationEndpoints charm relation) s = (.error e,s') := by
  obtain ⟨world,count⟩ := at_
  have query : run (respond rules script) (ask statusCall) s =
      (script.reply statusCall k,⟨w,s.log ++ [statusCall]⟩) := by
    rw [run_perform,respond,rules,world,count]
    rfl
  have counted : At w (k+1) ⟨w,s.log ++ [statusCall]⟩ := ⟨rfl,by simp [count]⟩
  -- the rest of the function, for the topology that the charm goes on with
  have rest (topology : List (String × InstanceInfo)) (fetched : run (respond rules script)
      (ClusterClient.fetchInstances .own) s = (.ok topology,⟨w,s.log ++ [statusCall]⟩)) :
      ∃ s', run (respond rules script) (updateRelationEndpoints charm relation) s = (.ok (),s') ∧
        At (w.publish relation (publishedFor charm w.peers topology)) (k+1) s' := by
    obtain ⟨asked,between⟩ := @at_call script w (k+1) _ counted .peersRelation (by decide) rfl
    rw [run_perform] at asked
    have units := run_charmUnits charm asked
    obtain ⟨s₁,collected,world₁,count₁⟩ :=
      collect_run (@getUnitAddress_run script charm machine w (k+1)) topology ⟨[],[],[]⟩ _ between
    have built : run (respond rules script) (buildDatabaseEndpoints charm) s =
        (.ok ((endpointsOf charm (peerAddress charm w.peers relationDatabase) (unitsOf charm w.peers) topology).rw.map withPort,
          (endpointsOf charm (peerAddress charm w.peers relationDatabase) (unitsOf charm w.peers) topology).ro.map withPort),s₁) := by
      simp only [buildDatabaseEndpoints,machine,buildClusterEndpoints,run_bind,fetched,units,collected]
      simp [prepended]
    refine ⟨⟨w.publish relation (publishedFor charm w.peers topology),
      s₁.log ++ [.setEndpoints relation (publishedFor charm w.peers topology).1] ++
        [.setReadOnlyEndpoints relation (publishedFor charm w.peers topology).2]⟩,?_,?_⟩
    · simp only [updateRelationEndpoints,run_bind,built]
      simp [respond,rules,answer,effect,world₁,publish_publish,publishedFor]
    · exact ⟨rfl,by simp [count₁]⟩
  rcases h : script.reply statusCall k with e | report
  · by_cases caught : e.isExecutionError = true
    · simp only [topologyOf,caught,if_true]
      refine rest [] ?_
      simp only [ClusterClient.fetchInstances,run_tryElse,query,h,caught,if_true,run_pure]
    · simp only [topologyOf,caught]
      refine ⟨e,⟨w,s.log ++ [statusCall]⟩,?_⟩
      simp [updateRelationEndpoints,buildDatabaseEndpoints,machine,buildClusterEndpoints,
          ClusterClient.fetchInstances,run_bind,run_tryElse,query,h,caught]
  · exact rest report.topology (by simp only [ClusterClient.fetchInstances,run_tryElse,query,h,run_pure])

/-! ### All relations -/

/-- The relations that units joined, in order. -/
def served (relations : List (Nat × Bool)) : List Nat := (relations.filter Prod.snd).map Prod.fst

variable (script charm)

/-- The world once the relations of a list are written, the first one from the
    query with number `k`. -/
def publishedFrom : Nat → List Nat → World → World
  | _, [], w => w
  | k, relation :: rest, w =>
    publishedFrom (k+1) rest (match topologyOf (script.reply statusCall k) with
      | some topology => w.publish relation (publishedFor charm w.peers topology)
      | none => w)

/-- The queries from number `k` let the hook go on. -/
def GoesOn (k n : Nat) : Prop := ∀ i < n, topologyOf (script.reply statusCall (k+i)) ≠ none

variable {script charm}

theorem each_run (machine : charm.substrate = .vm) (relations : List (Nat × Bool)) {w : World} {k : Nat}
    (s : Scene World Call) (at_ : At w k s) :
    (GoesOn script k (served relations).length → ∃ s', run (respond rules script) (publishEach charm relations) s =
      (.ok (),s') ∧ s'.world = publishedFrom script charm k (served relations) w) ∧
    (¬ GoesOn script k (served relations).length → ∃ e s',
      run (respond rules script) (publishEach charm relations) s = (.error e,s')) := by
  induction relations generalizing w k s with
  | nil => exact ⟨fun _ => ⟨s,rfl,at_.1⟩,fun stops => absurd (fun i less => by cases less) stops⟩
  | cons entry rest ih =>
    obtain ⟨relation,joined⟩ := entry
    cases joined with
    | false => simpa [publishEach,served,run_bind] using ih s at_
    | true =>
      have split_ : GoesOn script k (served ((relation,true) :: rest)).length ↔
          topologyOf (script.reply statusCall k) ≠ none ∧ GoesOn script (k+1) (served rest).length := by
        simp only [GoesOn,served,List.filter_cons_of_pos,List.map_cons,List.length_cons]
        constructor
        · intro all
          exact ⟨all 0 (by omega),fun i less => by simpa [Nat.add_assoc,Nat.add_comm 1] using all (i+1) (by omega)⟩
        · rintro ⟨first,later⟩ i less
          cases i with
          | zero => exact first
          | succ i => simpa [Nat.add_assoc,Nat.add_comm 1] using later i (by omega)
      have next : publishEach charm ((relation,true) :: rest) =
          updateRelationEndpoints charm relation >>= fun _ => publishEach charm rest := rfl
      have one := @relation_run script charm machine w k relation s at_
      rw [split_]
      cases fetched : topologyOf (script.reply statusCall k) with
      | none =>
        rw [fetched] at one
        obtain ⟨e,s',ran⟩ := one
        refine ⟨fun goes => absurd rfl goes.1,fun _ => ⟨e,s',?_⟩⟩
        simp [publishEach,run_bind,ran]
      | some topology =>
        rw [fetched] at one
        obtain ⟨s',ran,after⟩ := one
        obtain ⟨goes,stops⟩ := ih s' after
        constructor
        · rintro ⟨_,later⟩
          obtain ⟨s'',rest_,world⟩ := goes later
          refine ⟨s'',?_,?_⟩
          · rw [next,run_bind,ran]
            exact rest_
          · simpa [served,publishedFrom,fetched] using world
        · intro stop
          obtain ⟨e,s'',rest_⟩ := stops (fun later => stop ⟨by simp,later⟩)
          refine ⟨e,s'',?_⟩
          rw [next,run_bind,ran]
          exact rest_

end

/-! ### The databags after the hook -/

section
variable (script : Script Call Reply Exn) (charm : Charm) (w : World)

/-- The hook gets to the relations. -/
def Publishes : Prop := (play rules script (mayPublish charm) w).1 = .ok true

/-- The databags once the hook is over: Juju drops what a hook that raises has
    written. -/
def databags : Nat → String × String :=
  match play rules script (updateDatabaseEndpoints charm) w with
  | (.ok _,s) => s.world.published
  | (.error _,_) => w.published

/-- The topology was fetched for a relation with units, in a hook that returns. -/
def Fetched (relation : Nat) (report : ClusterReport) : Prop :=
  Publishes script charm w ∧ GoesOn script 0 (served w.relations).length ∧
    ∃ k, (served w.relations)[k]? = some relation ∧ script.reply statusCall k = .ok report

/-- Each relation holds the endpoints of the topology that was fetched for it, and
    those from before if none was. -/
def Consistent : Prop :=
  (∀ relation report, Fetched script charm w relation report →
    databags script charm w relation = publishedFor charm w.peers report.topology) ∧
  ∀ relation, (∀ report, ¬ Fetched script charm w relation report) →
    databags script charm w relation = w.published relation

/-- Endpoints are published in a relation whose query fails. -/
def Erases : Prop :=
  Publishes script charm w ∧ GoesOn script 0 (served w.relations).length ∧
    ∃ (k : Nat) (relation : Nat) (e : Exn), (served w.relations)[k]? = some relation ∧
      script.reply statusCall k = .error e ∧ w.published relation ≠ ("","")

variable {script charm}

theorem publishedFrom_other (relations : List Nat) {r : Nat} (other : r ∉ relations) (k : Nat) (w : World) :
    (publishedFrom script charm k relations w).published r = w.published r := by
  induction relations generalizing k w with
  | nil => rfl
  | cons relation rest ih =>
    rw [publishedFrom,ih (by simp_all)]
    split
    · exact publish_other _ _ (by simp_all)
    · rfl

theorem publishedFrom_at (relations : List Nat) (distinct : relations.Nodup) {i r : Nat} (at_ : relations[i]? = some r)
    (k : Nat) (w : World) {topology : List (String × InstanceInfo)}
    (fetched : topologyOf (script.reply statusCall (k+i)) = some topology) :
    (publishedFrom script charm k relations w).published r = publishedFor charm w.peers topology := by
  induction relations generalizing k i w with
  | nil => simp at at_
  | cons relation rest ih =>
    obtain ⟨new,distinct⟩ := List.nodup_cons.mp distinct
    rw [publishedFrom]
    cases i with
    | zero =>
      cases at_
      rw [publishedFrom_other rest new]
      simp only [Nat.add_zero] at fetched
      simp only [fetched,publish_same]
    | succ i =>
      rw [ih distinct (by simpa using at_) (k+1) _ (by rw [← fetched]; congr 2; omega)]
      split <;> rfl

theorem served_nodup : (served w.relations).Nodup :=
  List.Nodup.sublist (List.Sublist.map _ List.filter_sublist) w.distinct

/-- The calls that publish or ask for the topology. -/
def publishing : Call → Bool
  | .setEndpoints _ _ | .setReadOnlyEndpoints _ _ | .clusterStatus _ => true
  | _ => false

theorem mayPublish_avoids (machine : charm.substrate = .vm) :
    Avoids (fun c => publishing c = true) (mayPublish charm) := by
  have ask_ {c : Call} (other : publishing c = false) : Avoids (fun c => publishing c = true) (ask c) :=
    avoids_ask (by simp [other])
  have running : Avoids (fun c => publishing c = true) (ServerService.running .vm) :=
    avoids_bind (ask_ rfl) fun _ => avoids_ite _ (fun _ => ask_ rfl) (fun _ => trivial)
  have labels : Avoids (fun c => publishing c = true) InstanceClient.fetchClusterLabels :=
    avoids_tryExcept (ask_ rfl) (fun _ => trivial)
  have ready : Avoids (fun c => publishing c = true) (initialized charm) := by
    rw [initialized,machine]
    refine avoids_bind running fun _ => avoids_ite _ (fun _ => ?_) (fun _ => trivial)
    exact avoids_tryElse labels (fun _ => trivial)
      (fun _ => avoids_bind (avoids_bind (ask_ rfl) (fun _ => trivial)) (fun _ => trivial))
  refine avoids_bind ready fun _ => avoids_ite _ (fun _ => ?_) (fun _ => trivial)
  refine avoids_bind (ask_ rfl) fun _ => avoids_ite _ (fun _ => ?_) (fun _ => trivial)
  exact avoids_bind (ask_ rfl) (fun _ => trivial)

theorem mayPublish_at (machine : charm.substrate = .vm) : At w 0 (play rules script (mayPublish charm) w).2 := by
  refine run_frame (fun s c r happened other at_ => ?_) (mayPublish_avoids machine) ⟨w,[]⟩ ⟨rfl,rfl⟩
  obtain ⟨rfl,count⟩ := at_
  have different : c ≠ statusCall := by
    rintro rfl
    exact other rfl
  refine ⟨?_,by simp [Scene.after,different,count]⟩
  simp only [Scene.after,rules]
  unfold effect
  split
  · exact absurd rfl other
  · exact absurd rfl other
  · rfl

/-- The databags after the hook, in terms of the checks and the queries. -/
theorem databags_eq (machine : charm.substrate = .vm) :
    (Publishes script charm w → GoesOn script 0 (served w.relations).length →
      databags script charm w = (publishedFrom script charm 0 (served w.relations) w).published) ∧
    (¬ (Publishes script charm w ∧ GoesOn script 0 (served w.relations).length) →
      databags script charm w = w.published) := by
  have at_ := @mayPublish_at script charm w machine
  unfold Publishes databags
  rw [updateDatabaseEndpoints_eq charm machine]
  unfold play at at_ ⊢
  rw [run_bind]
  rcases h : run (respond rules script) (mayPublish charm) ⟨w,[]⟩ with ⟨e | b,s⟩
  · simp
  · rw [h] at at_
    simp only at at_ ⊢
    cases b with
    | false => simp [at_.1]
    | true =>
      obtain ⟨asked,listed⟩ := @at_call script w 0 s at_ .databaseRelations (by decide) rfl
      obtain ⟨goes,stops⟩ := @each_run script charm machine w.relations w 0 _ listed
      simp only [if_true,run_bind,asked,answer,true_and,forall_const]
      constructor
      · intro all
        obtain ⟨s',ran,world⟩ := goes all
        rw [ran]
        exact congrArg World.published world
      · intro stop
        obtain ⟨e,s',ran⟩ := stops stop
        rw [ran]

end

/-- Without a status query there are no endpoints. -/
theorem publishedFor_nil (charm : Charm) (peers : Option PeersRelation) : publishedFor charm peers [] = ("","") := rfl

/-- The endpoints are those of the fetched topologies, and otherwise those from
    before, unless the query for a relation with endpoints fails. -/
theorem consistent_iff (script : Script Call Reply Exn) (charm : Charm) (w : World) (machine : charm.substrate = .vm) :
    Consistent script charm w ↔ ¬ Erases script charm w := by
  obtain ⟨goes,stops⟩ := @databags_eq script charm w machine
  by_cases all : Publishes script charm w ∧ GoesOn script 0 (served w.relations).length
  · have after := goes all.1 all.2
    have failing {k : Nat} {relation : Nat} {e : Exn} (at_ : (served w.relations)[k]? = some relation)
        (fails : script.reply statusCall k = .error e) : databags script charm w relation = ("","") := by
      have inside : k < (served w.relations).length := (List.getElem?_eq_some_iff.mp at_).1
      have empty : topologyOf (script.reply statusCall (0+k)) = some [] := by
        have goesOn := all.2 k inside
        rw [Nat.zero_add,fails,topologyOf] at goesOn ⊢
        split
        · rfl
        · rename_i other
          simp [other] at goesOn
      rw [after,publishedFrom_at _ (served_nodup w) at_ 0 w empty,publishedFor_nil]
    constructor
    · rintro ⟨_,unchanged⟩ ⟨_,_,k,relation,e,at_,fails,published⟩
      refine published ?_
      rw [← unchanged relation ?_]
      · exact failing at_ fails
      · rintro report ⟨_,_,k',at_',fetched⟩
        have same : k = k' := by
          have inside := (List.getElem?_eq_some_iff.mp at_).1
          have listed : (served w.relations)[k]? = (served w.relations)[k']? := by rw [at_,at_']
          exact (List.getElem?_inj inside (served_nodup w)).mp listed
        subst same
        rw [fails] at fetched
        cases fetched
    · intro keeps
      constructor
      · rintro relation report ⟨_,_,k,at_,fetched⟩
        rw [after]
        refine publishedFrom_at _ (served_nodup w) at_ 0 w ?_
        rw [Nat.zero_add,fetched]
        rfl
      · intro relation none
        by_cases member : relation ∈ served w.relations
        · obtain ⟨k,at_⟩ := List.mem_iff_getElem?.mp member
          rcases h : script.reply statusCall k with e | report
          · rw [failing at_ h]
            by_contra published
            exact keeps ⟨all.1,all.2,k,relation,e,at_,h,fun same => published same.symm⟩
          · exact absurd ⟨all.1,all.2,k,at_,h⟩ (none report)
        · rw [after]
          exact publishedFrom_other _ member 0 w
  · have same := stops all
    refine iff_of_true ⟨?_,?_⟩ (fun erases => all ⟨erases.1,erases.2.1⟩)
    · exact fun relation report fetched => absurd ⟨fetched.1,fetched.2.1⟩ all
    · exact fun relation _ => congrFun same relation

def leader : Charm := ⟨.vm,"mysql",0,"cluster","10.0.0.1"⟩

/-- One relation with published endpoints. -/
def related : World := ⟨some ⟨[],[("database-address","10.0.0.1")],0⟩,[(7,true)],by decide,fun _ => ("10.0.0.1:3306","")⟩

/-- The charm is initialised, its unit leads, and every status query fails. -/
def failedQuery : Script Call Reply Exn where
  reply c _ := match c with
    | .snapPresent | .snapServiceActive | .isLeader => .ok true
    | .clusterLabels _ => .ok ["cluster"]
    | .appData _ => .ok (some "cluster")
    | .clusterStatus _ => .error ⟨.executionError,"The instance is unreachable"⟩
    | _ => .ok default
  takesEffect _ _ := false

theorem consistent_iff_failedQuery :
    leader.substrate = .vm ∧ (Consistent failedQuery leader related ↔ ¬ Erases failedQuery leader related) :=
  ⟨rfl,consistent_iff failedQuery leader related rfl⟩

/-- The failed query erases the endpoints of the relation. -/
theorem failedQuery_erases :
    databags failedQuery leader related 7 = ("","") ∧ ¬ Consistent failedQuery leader related := by
  have erased : databags failedQuery leader related 7 = ("","") := by rfl
  refine ⟨erased,fun consistent => ?_⟩
  have unchanged := consistent.2 7 (by rintro report ⟨_,_,_,_,fetched⟩; cases fetched)
  rw [erased] at unchanged
  exact absurd unchanged (by decide)

end MysqlOperators.Publication
