import MysqlOperators.Publication

/-!
The check before a refresh: `BaseRefreshHandler`. It reads the topology, promotes the unit
and prepares every instance. Both status queries of the check take a failure for an answer
without content.
-/
namespace MysqlOperators.Precheck
open MysqlOperators.Program MysqlOperators.Program.Prog MysqlOperators.External MysqlOperators.Clients
open MysqlOperators.Helpers MysqlOperators.Scripted

/-! ### The handler -/

/-- `raise PrecheckFailed(message)`. -/
def refuse {α : Type} (message : String) : Hook α := raise ⟨.precheckFailed,message⟩

def checkCluster : Hook Unit := do
  let instances ← (do
      ClusterClient.rescan .own
      ClusterClient.fetchInstances .own : Hook (List (String × InstanceInfo))).tryExcept
    Exn.isExecutionError fun _ => refuse "Failed to check cluster health"
  if instances.any (fun entry => entry.2.status ≠ .online) then refuse "Cluster instances are not online" else pure ()

def prepareCluster (charm : Charm) : Hook Unit := do
  let instanceHost ← getUnitAddress charm charm.unit relationPeers
  (promoteInstance instanceHost false).tryExcept Exn.isExecutionError fun _ => refuse "Failed to prepare cluster"

/-- The client is built for a host, and sets a variable there. -/
def prepareInstance (instanceHost : String) : Hook Unit :=
  (ask (.setVariable (.host instanceHost) "innodb_fast_shutdown" "0")).tryExcept Exn.isExecutionError fun _ =>
    refuse "Failed to prepare instance"

def prepareInstances (charm : Charm) : List UnitId → Hook Unit
  | [] => pure ()
  | unit :: rest => do
    let instanceHost ← getUnitAddress charm unit relationPeers
    prepareInstance instanceHost
    prepareInstances charm rest

def runPreRefreshChecksBeforeAnyUnitsRefreshed (charm : Charm) : Hook Unit := do
  checkCluster
  prepareCluster charm
  let units ← charmUnits charm
  prepareInstances charm units

/-! ### The cluster -/

/-- What the check has of Juju and of the network. -/
structure Surroundings where
  charm : Charm
  peers : Option PeersRelation
  resolve : String → Option String

/-- The hosts whose instances are prepared, and whether a call of MySQL Shell has failed. -/
structure World where
  prepared : List String
  failed : Bool

/-- The calls of MySQL Shell in the check. -/
def usesMysql : Call → Bool
  | .rescanCluster _ | .clusterStatus _ | .promoteInstance _ _ | .setVariable _ _ _ => true
  | _ => false

namespace Surroundings
variable (d : Surroundings)

/-- The databags do not change, and a call of MySQL Shell that fails raises an
    ExecutionError. -/
def answer (_ : World) : (c : Call) → Except Exn (Reply c) → Except Exn (Reply c)
  | .peersRelation,_ => .ok d.peers
  | .hostname name,_ =>
    match d.resolve name with
    | some found => .ok found
    | none => .error ⟨.runtimeError,"Failed to resolve hostname for " ++ name⟩
  | c,.error e => .error (if usesMysql c then ⟨.executionError,e.text⟩ else e)
  | _,r => r

def effect (w : World) (c : Call) (r : Except Exn (Reply c)) (_ : Bool) : World where
  prepared := match c,r with
    | .setVariable (.host host) _ _,.ok _ => w.prepared ++ [host]
    | _,_ => w.prepared
  failed := w.failed || (usesMysql c && !r.isOk)

def rules : Rules World Call Reply Exn := ⟨d.answer,effect⟩

def units : List UnitId := unitsOf d.charm d.peers

/-- The address of a unit, or what looking it up raises. -/
def address (unit : UnitId) : Except Exn String :=
  match d.charm.substrate with
  | .vm => .ok (peerAddress d.charm d.peers relationPeers unit)
  | .k8s =>
    let name := getUnitLabel d.charm unit ++ "." ++ d.charm.appName ++ "-endpoints"
    match d.resolve name with
    | none => .error ⟨.runtimeError,"Failed to resolve hostname for " ++ name⟩
    | some found =>
      if Python.occursIn name.toList found.toList then .ok found
      else .error ⟨.valueError,"The unit address has not been populated yet"⟩

end Surroundings

/-- How the check ends. -/
def Surroundings.ends (d : Surroundings) (script : Script Call Reply Exn) : Except Exn Unit × World :=
  let (r,scene) := play d.rules script (runPreRefreshChecksBeforeAnyUnitsRefreshed d.charm) ⟨[],false⟩
  (r,scene.world)

section
variable (d : Surroundings) (script : Script Call Reply Exn)

/-- The check completes only if a topology with ONLINE instances alone was fetched and the
    instance of the unit itself and of each peer is prepared at its address, and it refuses
    if a call of MySQL Shell has failed. -/
structure FailsClosed : Prop where
  fetched : (d.ends script).1 = .ok () → ∃ report, script.reply (.clusterStatus .own) 0 = .ok report ∧
    report.topology ≠ [] ∧ ∀ entry ∈ report.topology, entry.2.status = .online
  prepared : (d.ends script).1 = .ok () → ∀ unit ∈ d.charm.unit :: d.units, ∃ host, d.address unit = .ok host ∧
    host ≠ "" ∧ host ∈ (d.ends script).2.prepared
  surfaces : (d.ends script).2.failed = true → ∃ message, (d.ends script).1 = .error ⟨.precheckFailed,message⟩

/-! ### What comes after the topology -/

/-- What keeps the check from completing: a call of MySQL Shell, or anything else. -/
inductive Obstacle where
  | mysql
  | other
deriving DecidableEq

def promotingObstacle (host : String) : Option Obstacle :=
  match script.reply (.promoteInstance .own host) 0 with
  | .ok _ => none
  | .error _ => some .mysql

/-- The unit is promoted unless the second status shows it as the primary. -/
def promotionObstacle (host : String) : Option Obstacle :=
  match script.reply (.clusterStatus .own) 1 with
  | .error _ => promotingObstacle script host
  | .ok report =>
    if report.status = .noQuorum then promotingObstacle script host
    else match report.primary with
      | none => some .other
      | some address => if addressHost address = host then none else promotingObstacle script host

/-- The first obstacle to the instances of some units, after those of some hosts. -/
def instancesObstacle (prepared : List String) : List UnitId → Option Obstacle
  | [] => none
  | unit :: rest =>
    match d.address unit with
    | .error _ => some .other
    | .ok host =>
      match script.reply (.setVariable (.host host) "innodb_fast_shutdown" "0") (prepared.count host) with
      | .error _ => some .mysql
      | .ok _ => instancesObstacle (prepared ++ [host]) rest

/-- The first obstacle once the topology is accepted. -/
def laterObstacle : Option Obstacle :=
  match d.address d.charm.unit with
  | .error _ => some .other
  | .ok host => (promotionObstacle script host).or (instancesObstacle d script [] d.units)

/-- The second status query fails. -/
def secondFails : Bool :=
  match d.address d.charm.unit,script.reply (.clusterStatus .own) 1 with
  | .ok _,.error _ => true
  | _,_ => false

/-- The units are known, and none has an empty address. -/
def Populated : Prop := d.units ≠ [] ∧ ∀ unit ∈ d.units, d.address unit ≠ .ok ""

/-- The status queries are answered, the first one with a topology that is not empty, and
    the units have addresses, unless the check is kept from completing all the same. -/
def Sighted : Prop :=
  (∃ a, script.reply (.rescanCluster .own) 0 = .ok a) →
    match script.reply (.clusterStatus .own) 0 with
    | .error _ => laterObstacle d script = some .mysql
    | .ok report => (∀ entry ∈ report.topology, entry.2.status = .online) →
      (report.topology = [] ∨ ¬ Populated d → laterObstacle d script ≠ none) ∧
        (secondFails d script = true → laterObstacle d script = some .mysql)

/-! ### The steps -/

/-- How a program ends that meets an obstacle, in a world in which calls have failed or not. -/
def Meets (obstacle : Option Obstacle) (failed : Bool) (r : Except Exn Unit) (w : World) : Prop :=
  match obstacle with
  | none => r = .ok () ∧ w.failed = failed
  | some .mysql => ∃ message, r = .error ⟨.precheckFailed,message⟩
  | some .other => (∃ e, r = .error e ∧ e.cls ≠ .precheckFailed) ∧ w.failed = failed

theorem meets_ok_iff {obstacle : Option Obstacle} {failed : Bool} {r : Except Exn Unit} {w : World}
    (meets : Meets obstacle failed r w) : r = .ok () ↔ obstacle = none := by
  cases obstacle with
  | none => exact iff_of_true meets.1 rfl
  | some o =>
    refine iff_of_false ?_ nofun
    rintro rfl
    cases o with
    | mysql => obtain ⟨_,raised⟩ := meets; cases raised
    | other => obtain ⟨⟨_,raised,_⟩,_⟩ := meets; cases raised

theorem address_raises {unit : UnitId} {e : Exn} (raised : d.address unit = .error e) : e.cls ≠ .precheckFailed := by
  unfold Surroundings.address at raised
  split at raised
  · cases raised
  · dsimp only at raised
    split at raised
    · cases raised
      nofun
    · split at raised <;> cases raised
      nofun

theorem respond_peersRelation (w : World) (log : List Call) :
    respond d.rules script ⟨w,log⟩ .peersRelation = (.ok d.peers,⟨w,log ++ [.peersRelation]⟩) := by
  simp [respond,Surroundings.rules,Surroundings.answer,Surroundings.effect,usesMysql]

/-- The address is looked up with one call, which is not one of MySQL Shell. -/
theorem looks_up {unit : UnitId} (known : unit = d.charm.unit ∨ unit ∈ d.units) (w : World) (log : List Call) :
    ∃ c, usesMysql c = false ∧ run (respond d.rules script) (getUnitAddress d.charm unit relationPeers) ⟨w,log⟩ =
      (d.address unit,⟨w,log ++ [c]⟩) := by
  unfold Surroundings.address
  cases machine : d.charm.substrate with
  | vm =>
    exact ⟨.peersRelation,rfl,run_getUnitAddress machine (respond_peersRelation d script w log) relationPeers unit known⟩
  | k8s =>
    simp only [getUnitAddress,machine]
    generalize getUnitLabel d.charm unit ++ "." ++ d.charm.appName ++ "-endpoints" = name
    refine ⟨.hostname name,rfl,?_⟩
    cases resolved : d.resolve name with
    | none => simp [run_bind,respond,Surroundings.rules,Surroundings.answer,Surroundings.effect,usesMysql,resolved]
    | some found =>
      by_cases occurs : Python.occursIn name.toList found.toList = true <;>
        simp [run_bind,respond,Surroundings.rules,Surroundings.answer,Surroundings.effect,usesMysql,resolved,occurs]

abbrev prepareCall (host : String) : Call := .setVariable (.host host) "innodb_fast_shutdown" "0"

theorem run_prepareInstance (host : String) (w : World) (log : List Call) :
    run (respond d.rules script) (prepareInstance host) ⟨w,log⟩ =
      match script.reply (prepareCall host) (log.count (prepareCall host)) with
      | .ok _ => (.ok (),⟨⟨w.prepared ++ [host],w.failed⟩,log ++ [prepareCall host]⟩)
      | .error _ => (.error ⟨.precheckFailed,"Failed to prepare instance"⟩,
          ⟨⟨w.prepared,true⟩,log ++ [prepareCall host]⟩) := by
  unfold prepareInstance
  cases answered : script.reply (prepareCall host) (log.count (prepareCall host)) with
  | ok _ =>
    simp [run_tryExcept,respond,Surroundings.rules,Surroundings.answer,Surroundings.effect,usesMysql,answered,Except.isOk,
      Except.toBool]
  | error e =>
    simp [run_tryExcept,respond,Surroundings.rules,Surroundings.answer,Surroundings.effect,usesMysql,answered,Except.isOk,
      Except.toBool,Exn.isExecutionError,refuse]

/-- The loop stops at the first obstacle, or prepares the instance of each unit. -/
theorem run_prepareInstances (units : List UnitId) (known : units ⊆ d.units) (w : World) (log : List Call)
    (counted : ∀ host, log.count (prepareCall host) = w.prepared.count host) :
    ∃ r w' log', run (respond d.rules script) (prepareInstances d.charm units) ⟨w,log⟩ = (r,⟨w',log'⟩) ∧
      Meets (instancesObstacle d script w.prepared units) w.failed r w' ∧
      (r = .ok () → w.prepared ⊆ w'.prepared ∧ (units = [] → w'.prepared = w.prepared) ∧
        ∀ unit ∈ units, ∃ host, d.address unit = .ok host ∧ host ∈ w'.prepared) := by
  induction units generalizing w log with
  | nil => exact ⟨_,_,_,rfl,⟨rfl,rfl⟩,fun _ => ⟨List.Subset.refl _,fun _ => rfl,nofun⟩⟩
  | cons unit rest ih =>
    obtain ⟨here,known⟩ := List.cons_subset.mp known
    obtain ⟨c,foreign,ran⟩ := looks_up d script (.inr here) w log
    have other (host : String) : c ≠ prepareCall host := by
      rintro rfl
      cases foreign
    rw [prepareInstances,run_bind,ran,instancesObstacle]
    cases found : d.address unit with
    | error e => exact ⟨_,_,_,rfl,⟨⟨e,rfl,address_raises d found⟩,rfl⟩,nofun⟩
    | ok host =>
      have count : (log ++ [c]).count (prepareCall host) = w.prepared.count host := by
        simp [counted,other]
      dsimp only
      rw [run_bind,run_prepareInstance,count]
      cases answered : script.reply (prepareCall host) (w.prepared.count host) with
      | error e => exact ⟨_,_,_,rfl,⟨_,rfl⟩,nofun⟩
      | ok _ =>
        obtain ⟨r,w',log',ran',meets,done⟩ := ih known ⟨w.prepared ++ [host],w.failed⟩ (log ++ [c] ++ [prepareCall host])
          (fun host' => by
            have named : (prepareCall host = prepareCall host') ↔ host = host' := by simp
            simp [counted,other,List.count_append,List.count_singleton,named])
        refine ⟨r,w',log',ran',meets,fun returns => ?_⟩
        obtain ⟨kept,-,each⟩ := done returns
        refine ⟨fun host' member => kept (List.mem_append_left _ member),nofun,fun unit' member => ?_⟩
        rcases List.mem_cons.mp member with rfl | later
        · exact ⟨host,found,kept (by simp)⟩
        · exact each unit' later

/-- What `fetch_primary_host` makes of a status. -/
def primaryShown : Except Exn ClusterReport → Except Exn (Option String)
  | .error _ => .ok none
  | .ok report =>
    if report.status = .noQuorum then .ok none
    else match report.primary with
      | some address => .ok (some (addressHost address))
      | none => .error ⟨.attributeError,"'NoneType' object has no attribute 'split'"⟩

theorem run_fetchPrimaryHost (w : World) (log : List Call) (once : log.count (.clusterStatus .own) = 1) :
    run (respond d.rules script) (ClusterClient.fetchPrimaryHost .own) ⟨w,log⟩ =
      (primaryShown (script.reply (.clusterStatus .own) 1),
        ⟨⟨w.prepared,w.failed || !(script.reply (.clusterStatus .own) 1).isOk⟩,log ++ [.clusterStatus .own]⟩) := by
  unfold ClusterClient.fetchPrimaryHost
  cases answered : script.reply (.clusterStatus .own) 1 with
  | error e =>
    simp [run_tryElse,respond,Surroundings.rules,Surroundings.answer,Surroundings.effect,usesMysql,once,answered,
      Except.isOk,Except.toBool,Exn.isExecutionError,primaryShown]
  | ok report =>
    simp only [run_tryElse,run_perform,respond,Surroundings.rules,Surroundings.answer,Surroundings.effect,usesMysql,once,
      answered,Except.isOk,Except.toBool,primaryShown]
    by_cases split_ : report.status = .noQuorum
    · simp [split_]
    · cases primary : report.primary <;> simp [split_]

/-- A program ends as an obstacle has it, and leaves the preparation of instances alone. -/
def Stops (p : Hook Unit) (w : World) (log : List Call) (obstacle : Option Obstacle) (failed : Bool) : Prop :=
  ∃ r w' log', run (respond d.rules script) p ⟨w,log⟩ = (r,⟨w',log'⟩) ∧ Meets obstacle failed r w' ∧
    w'.prepared = w.prepared ∧ ∀ host, log'.count (prepareCall host) = log.count (prepareCall host)

/-- `try: p / except ExecutionError: raise PrecheckFailed`. -/
abbrev orRefuse (p : Hook Unit) : Hook Unit :=
  p.tryExcept Exn.isExecutionError fun _ => refuse "Failed to prepare cluster"

theorem stops_promotes (host : String) (w : World) (log : List Call) (new : log.count (.promoteInstance .own host) = 0) :
    Stops d script (orRefuse (ask (.promoteInstance .own host))) w log (promotingObstacle script host) w.failed := by
  unfold promotingObstacle
  cases answered : script.reply (.promoteInstance .own host) 0 with
  | ok _ =>
    refine ⟨.ok (),w,log ++ [.promoteInstance .own host],?_,⟨rfl,rfl⟩,rfl,by simp⟩
    simp [run_tryExcept,respond,Surroundings.rules,Surroundings.answer,Surroundings.effect,usesMysql,new,answered,
      Except.isOk,Except.toBool]
  | error e =>
    refine ⟨.error ⟨.precheckFailed,"Failed to prepare cluster"⟩,⟨w.prepared,true⟩,log ++ [.promoteInstance .own host],?_,
      ⟨_,rfl⟩,rfl,by simp⟩
    simp [run_tryExcept,respond,Surroundings.rules,Surroundings.answer,Surroundings.effect,usesMysql,new,answered,
      Except.isOk,Except.toBool,Exn.isExecutionError,refuse]

theorem promotionObstacle_eq (host : String) : promotionObstacle script host =
    match primaryShown (script.reply (.clusterStatus .own) 1) with
    | .error _ => some .other
    | .ok shown => if shown = some host then none else promotingObstacle script host := by
  unfold promotionObstacle primaryShown
  cases script.reply (.clusterStatus .own) 1 with
  | error e => simp
  | ok report =>
    by_cases split_ : report.status = .noQuorum
    · simp [split_]
    · cases primary : report.primary <;> simp [split_,primary]

theorem primaryShown_raises {r : Except Exn ClusterReport} {e : Exn} (raised : primaryShown r = .error e) :
    e.cls = .attributeError := by
  unfold primaryShown at raised
  split at raised
  · cases raised
  · split at raised
    · cases raised
    · split at raised <;> cases raised
      rfl

/-- The promotion of the unit, when one status query has been made before. -/
theorem stops_promoteInstance (host : String) (w : World) (log : List Call) (once : log.count (.clusterStatus .own) = 1)
    (new : log.count (.promoteInstance .own host) = 0) :
    Stops d script (orRefuse (promoteInstance host false)) w log (promotionObstacle script host)
      (w.failed || !(script.reply (.clusterStatus .own) 1).isOk) := by
  have fetches := run_fetchPrimaryHost d script w log once
  rw [promotionObstacle_eq]
  cases shown : primaryShown (script.reply (.clusterStatus .own) 1) with
  | error e =>
    have cls := primaryShown_raises shown
    refine ⟨.error e,⟨w.prepared,w.failed || !(script.reply (.clusterStatus .own) 1).isOk⟩,log ++ [.clusterStatus .own],?_,
      ⟨⟨e,rfl,by simp [cls]⟩,rfl⟩,rfl,by simp⟩
    rw [run_tryExcept,promoteInstance,run_bind,fetches,shown]
    simp [Exn.isExecutionError,cls]
  | ok primary =>
    dsimp only
    by_cases same : primary = some host
    · rw [if_pos same]
      refine ⟨.ok (),⟨w.prepared,w.failed || !(script.reply (.clusterStatus .own) 1).isOk⟩,log ++ [.clusterStatus .own],?_,
        ⟨rfl,rfl⟩,rfl,by simp⟩
      rw [run_tryExcept,promoteInstance,run_bind,fetches,shown]
      simp [same]
    · rw [if_neg same]
      obtain ⟨r,w',log',ran,meets,kept,counts⟩ := stops_promotes d script host
        ⟨w.prepared,w.failed || !(script.reply (.clusterStatus .own) 1).isOk⟩ (log ++ [.clusterStatus .own]) (by simp [new])
      refine ⟨r,w',log',?_,meets,kept,fun host' => by rw [counts]; simp⟩
      rw [← ran,run_tryExcept,run_tryExcept,promoteInstance,run_bind,fetches,shown]
      simp only [if_neg same]
      rfl

/-- What the check does with an accepted topology. -/
def later : Hook Unit := do
  prepareCluster d.charm
  let units ← charmUnits d.charm
  prepareInstances d.charm units

theorem runPreRefreshChecks_eq :
    runPreRefreshChecksBeforeAnyUnitsRefreshed d.charm = checkCluster >>= fun _ => later d := rfl

theorem run_later (failed : Bool) (log : List Call) (once : log.count (.clusterStatus .own) = 1)
    (promoting : ∀ host, log.count (.promoteInstance .own host) = 0)
    (preparing : ∀ host, log.count (prepareCall host) = 0) :
    ∃ r w log', run (respond d.rules script) (later d) ⟨⟨[],failed⟩,log⟩ = (r,⟨w,log'⟩) ∧
      Meets (laterObstacle d script) (failed || secondFails d script) r w ∧
      (r = .ok () → (d.units = [] → w.prepared = []) ∧
        ∀ unit ∈ d.units, ∃ host, d.address unit = .ok host ∧ host ∈ w.prepared) := by
  obtain ⟨c,foreign,looked⟩ := looks_up d script (.inl rfl) ⟨[],failed⟩ log
  have other (c' : Call) (uses : usesMysql c' = true) : c ≠ c' := by
    rintro rfl
    rw [foreign] at uses
    cases uses
  unfold later prepareCluster laterObstacle secondFails
  simp only [run_bind,looked]
  cases known : d.address d.charm.unit with
  | error e => exact ⟨_,_,_,rfl,⟨⟨e,rfl,address_raises d known⟩,by simp⟩,nofun⟩
  | ok host =>
    obtain ⟨r,w,log₁,ran,meets,kept,counts⟩ := stops_promoteInstance d script host ⟨[],failed⟩ (log ++ [c])
      (by simp [once,other (.clusterStatus .own) rfl]) (by simp [promoting,other (.promoteInstance .own host) rfl])
    have second : (match (Except.ok host : Except Exn String),script.reply (.clusterStatus .own) 1 with
        | .ok _,.error _ => true
        | _,_ => false) = !(script.reply (.clusterStatus .own) 1).isOk := by
      cases script.reply (.clusterStatus .own) 1 <;> rfl
    dsimp only at ran ⊢
    rw [ran,second]
    cases obstacle : promotionObstacle script host with
    | some o =>
      rw [obstacle] at meets
      rcases r with e | _
      · exact ⟨.error e,w,log₁,rfl,meets,nofun⟩
      · cases (meets_ok_iff meets).mp rfl
    | none =>
      rw [obstacle] at meets
      obtain ⟨rfl,fails⟩ := meets
      obtain ⟨r,w',log₂,ran',meets',done⟩ := run_prepareInstances d script d.units (List.Subset.refl _) w
        (log₁ ++ [.peersRelation]) (fun host' => by simp [counts,preparing,kept,other (prepareCall host') rfl])
      dsimp only
      rw [run_charmUnits d.charm (respond_peersRelation d script w log₁)]
      dsimp only
      rw [kept,fails] at meets'
      rw [kept] at done
      exact ⟨r,w',log₂,ran',meets',fun returns => (done returns).2⟩

/-! ### The topology -/

abbrev checkedLog : List Call := [.rescanCluster .own,.clusterStatus .own]

theorem run_checkCluster : run (respond d.rules script) checkCluster ⟨⟨[],false⟩,[]⟩ =
    match script.reply (.rescanCluster .own) 0 with
    | .error _ => (.error ⟨.precheckFailed,"Failed to check cluster health"⟩,⟨⟨[],true⟩,[.rescanCluster .own]⟩)
    | .ok _ =>
      match script.reply (.clusterStatus .own) 0 with
      | .error _ => (.ok (),⟨⟨[],true⟩,checkedLog⟩)
      | .ok report =>
        if report.topology.any (fun entry => entry.2.status ≠ .online) then
          (.error ⟨.precheckFailed,"Cluster instances are not online"⟩,⟨⟨[],false⟩,checkedLog⟩)
        else (.ok (),⟨⟨[],false⟩,checkedLog⟩) := by
  unfold checkCluster ClusterClient.rescan ClusterClient.fetchInstances
  cases rescans : script.reply (.rescanCluster .own) 0 with
  | error e =>
    simp [run_bind,run_tryExcept,respond,Surroundings.rules,Surroundings.answer,Surroundings.effect,usesMysql,rescans,
      Except.isOk,Except.toBool,Exn.isExecutionError,refuse]
  | ok _ =>
    cases answered : script.reply (.clusterStatus .own) 0 with
    | error e =>
      simp [run_bind,run_tryExcept,run_tryElse,respond,Surroundings.rules,Surroundings.answer,Surroundings.effect,
        usesMysql,rescans,answered,Except.isOk,Except.toBool,Exn.isExecutionError]
    | ok report =>
      simp [run_bind,run_tryExcept,run_tryElse,respond,Surroundings.rules,Surroundings.answer,Surroundings.effect,
        usesMysql,rescans,answered,Except.isOk,Except.toBool,run_ite,refuse]

/-- A run that has passed the topology ends as its later obstacle has it. -/
theorem ends_later {failed : Bool}
    (passed : run (respond d.rules script) checkCluster ⟨⟨[],false⟩,[]⟩ = (.ok (),⟨⟨[],failed⟩,checkedLog⟩)) :
    Meets (laterObstacle d script) (failed || secondFails d script) (d.ends script).1 (d.ends script).2 ∧
      ((d.ends script).1 = .ok () → (d.units = [] → (d.ends script).2.prepared = []) ∧
        ∀ unit ∈ d.units, ∃ host, d.address unit = .ok host ∧ host ∈ (d.ends script).2.prepared) := by
  obtain ⟨r,w,log,ran,meets,done⟩ := run_later d script failed checkedLog rfl (fun host => by simp) (fun host => by simp)
  have ends : d.ends script = (r,w) := by
    simp only [Surroundings.ends,play,runPreRefreshChecks_eq,run_bind,passed,ran]
  rw [ends]
  exact ⟨meets,done⟩

/-- A run that is refused at the topology. -/
theorem failsClosed_refused {w : World} {log : List Call} {message : String}
    (refused : run (respond d.rules script) checkCluster ⟨⟨[],false⟩,[]⟩ = (.error ⟨.precheckFailed,message⟩,⟨w,log⟩)) :
    FailsClosed d script := by
  have ends : (d.ends script).1 = .error ⟨.precheckFailed,message⟩ := by
    simp only [Surroundings.ends,play,runPreRefreshChecks_eq,run_bind,refused]
  constructor
  · rw [ends]
    nofun
  · rw [ends]
    nofun
  · exact fun _ => ⟨message,ends⟩

theorem meets_surfaces_iff {obstacle : Option Obstacle} {failed : Bool} {r : Except Exn Unit} {w : World}
    (meets : Meets obstacle failed r w) :
    (w.failed = true → ∃ message, r = .error ⟨.precheckFailed,message⟩) ↔ (failed = true → obstacle = some .mysql) := by
  cases obstacle with
  | none =>
    obtain ⟨rfl,same⟩ := meets
    rw [same]
    simp
  | some o =>
    cases o with
    | mysql => exact iff_of_true (fun _ => meets) (fun _ => rfl)
    | other =>
      obtain ⟨⟨e,rfl,differs⟩,same⟩ := meets
      rw [same]
      refine imp_congr_right fun _ => iff_of_false ?_ nofun
      rintro ⟨message,raised⟩
      cases raised
      exact differs rfl

/-- The unit is one of those that are known. -/
theorem self_known (known : d.units ≠ []) : d.charm.unit ∈ d.units := by
  unfold Surroundings.units unitsOf at known ⊢
  cases peers : d.peers with
  | none => simp [peers] at known
  | some peers => exact PeersRelation.mem_everyone.mpr (.inl rfl)

/-- Where each unit is gone through, all are prepared exactly when they have addresses. -/
theorem prepared_iff {prepared : List String} (none_ : d.units = [] → prepared = [])
    (each : ∀ unit ∈ d.units, ∃ host, d.address unit = .ok host ∧ host ∈ prepared) :
    (∀ unit ∈ d.charm.unit :: d.units, ∃ host, d.address unit = .ok host ∧ host ≠ "" ∧ host ∈ prepared) ↔
      Populated d := by
  constructor
  · intro all
    refine ⟨fun empty => ?_,fun unit member unset => ?_⟩
    · obtain ⟨host,-,-,listed⟩ := all d.charm.unit List.mem_cons_self
      rw [none_ empty] at listed
      cases listed
    · obtain ⟨host,found,full,-⟩ := all unit (List.mem_cons_of_mem _ member)
      exact full (Except.ok.inj (found.symm.trans unset))
  · rintro ⟨known,full⟩ unit member
    have member : unit ∈ d.units := by
      rcases List.mem_cons.mp member with rfl | member
      · exact self_known d known
      · exact member
    obtain ⟨host,found,listed⟩ := each unit member
    refine ⟨host,found,?_,listed⟩
    rintro rfl
    exact full unit member found

/-- A run that has passed the topology fails closed exactly when something keeps it from
    completing without a topology or addresses, and MySQL Shell if one of its calls has
    failed. -/
theorem failsClosed_later {failed : Bool}
    (passed : run (respond d.rules script) checkCluster ⟨⟨[],false⟩,[]⟩ = (.ok (),⟨⟨[],failed⟩,checkedLog⟩)) :
    FailsClosed d script ↔
      (laterObstacle d script = none → (∃ report, script.reply (.clusterStatus .own) 0 = .ok report ∧
        report.topology ≠ [] ∧ ∀ entry ∈ report.topology, entry.2.status = .online) ∧ Populated d) ∧
      ((failed || secondFails d script) = true → laterObstacle d script = some .mysql) := by
  obtain ⟨meets,done⟩ := ends_later d script passed
  rw [← meets_ok_iff meets,← meets_surfaces_iff meets]
  constructor
  · rintro ⟨fetched,prepared,surfaces⟩
    exact ⟨fun returns => ⟨fetched returns,(prepared_iff d (done returns).1 (done returns).2).mp (prepared returns)⟩,
      surfaces⟩
  · rintro ⟨complete,surfaces⟩
    exact ⟨fun returns => (complete returns).1,
      fun returns => (prepared_iff d (done returns).1 (done returns).2).mpr (complete returns).2,surfaces⟩

/-- The check fails closed if and only if both status queries are answered, the first one with
    a topology that is not empty, and the units have addresses, or something else keeps it
    from completing. -/
theorem failsClosed_iff : FailsClosed d script ↔ Sighted d script := by
  have checks := run_checkCluster d script
  unfold Sighted
  cases rescans : script.reply (.rescanCluster .own) 0 with
  | error e =>
    rw [rescans] at checks
    exact iff_of_true (failsClosed_refused d script checks) (by rintro ⟨_,same⟩; cases same)
  | ok u =>
    have rescanned : ∃ a, (.ok u : Except Exn Unit) = .ok a := ⟨u,rfl⟩
    rw [rescans] at checks
    cases answered : script.reply (.clusterStatus .own) 0 with
    | error e =>
      simp only [answered] at checks
      rw [failsClosed_later d script checks,answered]
      constructor
      · exact fun both _ => both.2 rfl
      · intro sighted
        have kept := sighted rescanned
        exact ⟨fun completes => absurd (kept.symm.trans completes) nofun,fun _ => kept⟩
    | ok report =>
      simp only [answered] at checks
      by_cases offline : report.topology.any (fun entry => entry.2.status ≠ .online) = true
      · rw [if_pos offline] at checks
        refine iff_of_true (failsClosed_refused d script checks) fun _ online => ?_
        obtain ⟨entry,member,status⟩ := List.any_eq_true.mp offline
        exact absurd (online entry member) (by simpa using status)
      · have online : ∀ entry ∈ report.topology, entry.2.status = .online := by
          simpa using offline
        rw [if_neg offline] at checks
        rw [failsClosed_later d script checks,answered]
        constructor
        · refine fun both _ _ => ⟨fun lacking completes => ?_,fun fails => both.2 (by simp [fails])⟩
          obtain ⟨⟨_,same,nonempty,_⟩,populated⟩ := both.1 completes
          cases same
          exact lacking.elim nonempty (fun lacks => lacks populated)
        · intro sighted
          obtain ⟨listed,second⟩ := sighted rescanned online
          refine ⟨fun completes => ?_,fun fails => second (by simpa using fails)⟩
          have full : report.topology ≠ [] ∧ Populated d :=
            (not_or.mp fun lacking => listed lacking completes).imp id not_not.mp
          exact ⟨⟨report,rfl,full.1,online⟩,full.2⟩

end

/-! ### A check that has seen nothing -/

def machine : Surroundings where
  charm := ⟨.vm,"mysql",0,"cluster","10.0.0.1"⟩
  peers := some ⟨[],[("database-peers-address","10.0.0.1")],0⟩
  resolve _ := none

/-- No status query is answered, and every other call succeeds. -/
def statusless : Script Call Reply Exn where
  reply c _ := match c with
    | .clusterStatus _ => .error ⟨.executionError,"Lost connection to MySQL server"⟩
    | _ => .ok default
  takesEffect _ _ := false

/-- The check completes and nothing has been fetched. -/
theorem statusless_completes :
    (machine.ends statusless).1 = .ok () ∧
      ¬ ∀ (d : Surroundings) (script : Script Call Reply Exn), FailsClosed d script := by
  have completes : (machine.ends statusless).1 = .ok () := by decide +kernel
  refine ⟨completes,fun always => ?_⟩
  obtain ⟨report,answered,_⟩ := (always machine statusless).fetched completes
  cases answered

end MysqlOperators.Precheck
