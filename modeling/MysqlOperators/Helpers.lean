import MysqlOperators.Workload

/-!
What the handlers share: the settings in the peer databags (`state`), the methods
of the charm object (`charm/operator`) and the event helpers (`events/helpers`).
-/
namespace MysqlOperators.Helpers
open MysqlOperators.Program MysqlOperators.Program.Prog MysqlOperators.External MysqlOperators.Clients
open MysqlOperators.Workload

/-! ### Peer databags -/

/-- Python treats a missing setting and an empty one alike. -/
def nonEmpty : Option String → Option String
  | some "" => none
  | value => value

/-- A setting that is not empty is what Python takes it for. -/
theorem eq_nonEmpty {value : Option String} (set_ : nonEmpty value ≠ none) : value = nonEmpty value := by
  unfold nonEmpty at set_ ⊢
  split at set_
  · contradiction
  · rfl

theorem nonEmpty_some {text : String} (full : text ≠ "") : nonEmpty (some text) = some text := by
  unfold nonEmpty
  split
  · rename_i same
    exact absurd (Option.some.inj same) full
  · rfl

def setting (data : Databag) (key : String) : Option String := nonEmpty (data.lookup key)

namespace PeerStateUnit

def getInstanceState (data : Databag) : String := (setting data "member-state").getD "UNKNOWN"

def getUnitAddress (data : Databag) (relation : String) : Option String := setting data (relation ++ "-address")

def getUnitLeaderFlag (data : Databag) : Option Bool := (setting data "leader").map (· == "true")

end PeerStateUnit

def setInstanceRole (role : Option InstanceRole) : Hook Unit :=
  ask (.setUnitData "member-role" ((role.map InstanceRole.value).getD "UNKNOWN"))

def setInstanceState (state : Option String) : Hook Unit :=
  ask (.setUnitData "member-state" ((nonEmpty state).getD "UNKNOWN"))

/-! ### Internal users -/

def usernameBackups : String := "charmed-backup"
def usernameMonitor : String := "charmed-stats"
def usernameOperator : String := "charmed-operator"
def usernameReplication : String := "charmed-replication"

def passwordKeyBackups : String := "backups-password"
def passwordKeyMonitor : String := "monitoring-password"
def passwordKeyOperator : String := "operator-password"
def passwordKeyReplication : String := "replication-password"

def usernameToPasswordKey : List (String × String) :=
  [(usernameBackups,passwordKeyBackups),(usernameMonitor,passwordKeyMonitor),
   (usernameOperator,passwordKeyOperator),(usernameReplication,passwordKeyReplication)]

/-! ### Secrets -/

/-- `dict.update` with one entry. -/
def updated (content : Databag) (key value : String) : Databag :=
  match content with
  | [] => [(key,value)]
  | (k,v) :: rest => if k = key then (k,value) :: rest else (k,v) :: updated rest key value

@[simp] theorem lookup_updated (content : Databag) (key value : String) :
    (updated content key value).lookup key = some value := by
  induction content with
  | nil => simp [updated]
  | cons entry rest ih =>
    obtain ⟨k,v⟩ := entry
    by_cases same : k = key
    · simp [updated,same]
    · have other : (key == k) = false := by simpa using Ne.symm same
      simp [updated,same,List.lookup_cons,other,ih]

namespace SecretStore

def getSecret (label : String) : Hook Unit :=
  (ask (.getSecret label)).tryExcept Exn.isSecretNotFound (fun _ => raise ⟨.valueError,"Secret not found"⟩)

def getContent (label : String) : Hook Databag := do
  getSecret label
  ask (.peekContent label)

def getValue (label key : String) : Hook String := do
  getSecret label
  let content ← ask (.peekContent label)
  match nonEmpty (content.lookup key) with
  | none => raise ⟨.valueError,"Failed to get secret key " ++ key⟩
  | some value => pure value

def setContent (label : String) (content : Databag) : Hook Unit := do
  getSecret label
  ask (.setContent label content)

def create (label : String) (content : Databag) : Hook Unit := ask (.addSecret label content)

end SecretStore

/-! ### The charm -/

def relationPeers : String := "database-peers"
def relationDatabase : String := "database"
def relationBackups : String := "s3-parameters"

def unitName (app : String) (unit : UnitId) : String := app ++ "/" ++ toString unit

def getUnitLabel (charm : Charm) (unit : UnitId) : String :=
  String.ofList ((unitName charm.appName unit).toList.map (fun c => if c = '/' then '-' else c))

/-- Units have different labels. -/
theorem label_injective (charm : Charm) {u v : UnitId} (same : getUnitLabel charm u = getUnitLabel charm v) :
    u = v := by
  have digits (n : Nat) : (toString n).toList.map (fun c => if c = '/' then '-' else c) = (toString n).toList := by
    refine (List.map_congr_left fun c member => ?_).trans (List.map_id _)
    have digit : c.isDigit = true := by
      rw [Nat.toString_eq_repr,Nat.toList_repr] at member
      exact Nat.isDigit_of_mem_toDigits (by decide) (by decide) member
    have other : c ≠ '/' := by
      rintro rfl
      cases digit
    simp [other]
  have texts := congrArg String.toList same
  simp only [getUnitLabel,unitName,String.toList_ofList,String.toList_append,List.map_append,digits] at texts
  have numbers := String.toList_inj.mp (List.append_cancel_left texts)
  have read := Python.number_toString u
  rw [numbers,Python.number_toString] at read
  exact (Option.some.inj read).symm

def secretLabel (charm : Charm) : String := relationPeers ++ "." ++ charm.appName ++ ".app"

def isLeader : Hook Bool := ask .isLeader

def setAppStatus (status : Status) : Hook Unit := do
  if ← isLeader then
    if ← ask .refreshing then pure () else ask (.setAppStatus status)

def setUnitStatus (status : Status) : Hook Unit := do
  if ← ask .refreshing then pure () else ask (.setUnitStatus status)

/-- `BaseCharm.cluster_name`. -/
def clusterName : Hook String := do
  let name ← ask (.appData "cluster-name")
  pure ((nonEmpty name).getD "")

/-- `get_unit_address`. On Kubernetes the name is resolved until it contains the
    unit's own address, or the attempts end. -/
def getUnitAddress (charm : Charm) (unit : UnitId) (relation : String) : Hook String :=
  match charm.substrate with
  | .vm => do
    match ← ask .peersRelation with
    | none => pure ""
    | some peers =>
      if unit = charm.unit then pure ((PeerStateUnit.getUnitAddress peers.own relation).getD "")
      else match peers.units.lookup unit with
        | none => raise ⟨.lookupError,unitName charm.appName unit⟩
        | some data => pure ((PeerStateUnit.getUnitAddress data relation).getD "")
  | .k8s => do
    let address := getUnitLabel charm unit ++ "." ++ charm.appName ++ "-endpoints"
    let found ← ask (.hostname address)
    if Python.occursIn address.toList found.toList then pure found
    else raise ⟨.valueError,"The unit address has not been populated yet"⟩

/-- `units`: the set of the unit itself and the peers that joined the relation. -/
def charmUnits (charm : Charm) : Hook (List UnitId) := do
  match ← ask .peersRelation with
  | none => pure []
  | some peers => pure (peers.everyone charm.unit)

def addressesOf (charm : Charm) : List UnitId → Hook (List String)
  | [] => pure []
  | unit :: rest => do
    let address ← getUnitAddress charm unit relationPeers
    let addresses ← addressesOf charm rest
    pure (address :: addresses)

/-- `_collect_peer_addresses`, a method of both handlers that look for the primary. -/
def collectPeerAddresses (charm : Charm) : Hook (List String) := do
  match ← ask .peersRelation with
  | none => pure []
  | some peers => addressesOf charm (peers.units.map Prod.fst)

/-- The units that a unit knows of. -/
def unitsOf (charm : Charm) (peers : Option PeersRelation) : List UnitId :=
  match peers with
  | none => []
  | some peers => peers.everyone charm.unit

/-- The address that the databag of a unit has for a relation, empty where there is
    none. -/
def peerAddress (charm : Charm) (peers : Option PeersRelation) (relation : String) (unit : UnitId) : String :=
  match peers with
  | none => ""
  | some peers =>
    (((if unit = charm.unit then some peers.own else peers.units.lookup unit).bind
      (List.lookup (relation ++ "-address"))).getD "")

theorem getUnitAddress_getD (data : Databag) (relation : String) :
    (PeerStateUnit.getUnitAddress data relation).getD "" = (data.lookup (relation ++ "-address")).getD "" := by
  simp only [PeerStateUnit.getUnitAddress,setting,nonEmpty]
  split
  · rename_i empty
    simp [empty]
  · rfl

/-- However the calls are answered, every unit of the application has a databag. -/
theorem run_getUnitAddress {W : Type} {respond : W → (c : Call) → Except Exn (Reply c) × W} {charm : Charm}
    (machine : charm.substrate = .vm) {w w' : W} {peers : Option PeersRelation}
    (asked : respond w .peersRelation = (.ok peers,w')) (relation : String) (unit : UnitId)
    (known : unit = charm.unit ∨ unit ∈ unitsOf charm peers) :
    run respond (getUnitAddress charm unit relation) w = (.ok (peerAddress charm peers relation unit),w') := by
  simp only [getUnitAddress,machine,run_bind,run_perform,asked,peerAddress]
  cases peers with
  | none => rfl
  | some peers =>
    by_cases own : unit = charm.unit
    · simp [own,getUnitAddress_getD]
    · have listed : unit ∈ peers.units.map Prod.fst :=
        (PeersRelation.mem_everyone.mp (known.resolve_left own)).resolve_left own
      cases found : peers.units.lookup unit with
      | none =>
        rw [List.lookup_eq_none_iff] at found
        obtain ⟨entry,member,rfl⟩ := List.mem_map.mp listed
        simpa using found entry member
      | some data => simp [own,found,getUnitAddress_getD]

theorem run_charmUnits {W : Type} {respond : W → (c : Call) → Except Exn (Reply c) × W} (charm : Charm)
    {w w' : W} {peers : Option PeersRelation} (asked : respond w .peersRelation = (.ok peers,w')) :
    run respond (charmUnits charm) w = (.ok (unitsOf charm peers),w') := by
  simp only [charmUnits,run_bind,run_perform,asked,unitsOf]
  cases peers <;> rfl

/-! ### Event helpers -/

def initialized (charm : Charm) : Hook Bool := do
  if ← ServerService.running charm.substrate then
    InstanceClient.fetchClusterLabels.tryElse Exn.isExecutionError (fun _ => pure false) fun labels => do
      let name ← clusterName
      pure (labels.contains name)
  else pure false

/-- Endpoints of the cluster: read-write, read-only and not online. -/
structure Endpoints where
  rw : List String
  ro : List String
  no : List String
deriving DecidableEq, Repr

def Endpoints.add (e : Endpoints) (info : InstanceInfo) (address : String) : Endpoints :=
  { rw := if info.status = .online ∧ info.mode = "R/W" then e.rw ++ [address] else e.rw
    ro := if info.status = .online ∧ info.mode = "R/O" then e.ro ++ [address] else e.ro
    no := if info.status ≠ .online then e.no ++ [address] else e.no }

/-- The loop of `build_cluster_endpoints` over the topology. -/
def collectEndpoints (charm : Charm) (units : List UnitId) (relation : String) (e : Endpoints) :
    List (String × InstanceInfo) → Hook Endpoints
  | [] => pure e
  | (label,info) :: rest => do
    if info.status = .recovering then collectEndpoints charm units relation e rest
    else match units.find? (fun u => getUnitLabel charm u = label) with
      | none => collectEndpoints charm units relation e rest
      | some unit =>
        let address ← getUnitAddress charm unit relation
        if address = "" then collectEndpoints charm units relation e rest
        else collectEndpoints charm units relation (e.add info address) rest

def withPort (address : String) : String := address ++ ":" ++ toString ServerService.port

def buildClusterEndpoints (charm : Charm) (relation : String) : Hook Endpoints := do
  let instances ← ClusterClient.fetchInstances .own
  let units ← charmUnits charm
  let e ← collectEndpoints charm units relation ⟨[],[],[]⟩ instances
  pure ⟨e.rw.map withPort,e.ro.map withPort,e.no.map withPort⟩

def buildAppStatus : Hook Status := do
  let units ← ClusterClient.fetchInstances .own
  let state ← ClusterClient.fetchState
  match state with
  | some .ok | some .okPartial => pure (.active "Healthy")
  | some .okNoTolerance | some .okNoTolerancePartial =>
    pure (if units.length < 3 then .active "Healthy" else .active "Degraded")
  | some .noQuorum => pure (.blocked "No quorum")
  | some .offline | some .error => pure (.blocked "No online members")
  | some .unreachable => pure (.blocked "No connectivity")
  | _ => pure (.maintenance "Unknown")

def buildUnitStatus : Hook Status := do
  let role ← InstanceClient.fetchRole
  let state ← InstanceClient.fetchState
  if state ≠ some .online then pure (.maintenance "")
  else if role ≠ some .primary then pure (.active "")
  else do
    let clusterRole ← ClusterClient.fetchRole
    let clusterState ← ClusterClient.fetchState
    match clusterState,clusterRole with
    | some _,some .primary => pure (.active "Primary")
    | some state,some .replica => pure (.active ("Standby (" ++ state.value ++ ")"))
    | _,_ => pure (.maintenance "Unknown")

def setBuiltStatuses : Hook Unit := do
  setUnitStatus (← buildUnitStatus)
  setAppStatus (← buildAppStatus)

/-- `update_app_labels`; machines have no labels. -/
def updateAppLabels (charm : Charm) : Hook Unit :=
  match charm.substrate with
  | .vm => pure ()
  | .k8s => do
    let e ← buildClusterEndpoints charm relationDatabase
    e.rw.forM fun address => ask (.updateLabels (String.ofList (address.toList.takeWhile (· != '.'))) "primary")
    e.ro.forM fun address => ask (.updateLabels (String.ofList (address.toList.takeWhile (· != '.'))) "replicas")
    e.no.forM fun address => ask (.updateLabels (String.ofList (address.toList.takeWhile (· != '.'))) "offline")

/-- `build_database_endpoints`: the endpoints of the topology on machines, the two
    services on Kubernetes. -/
def buildDatabaseEndpoints (charm : Charm) : Hook (List String × List String) :=
  match charm.substrate with
  | .vm => do
    let e ← buildClusterEndpoints charm relationDatabase
    pure (e.rw,e.ro)
  | .k8s => do
    let primary ← ask (.hostname (charm.appName ++ "-primary"))
    let replicas ← ask (.hostname (charm.appName ++ "-replicas"))
    ask (.checkService primary ServerService.port)
    pure ([withPort primary],[withPort replicas])

/-- `DatabaseEventHandler.update_database_endpoints`. -/
def updateRelationEndpoints (charm : Charm) (relation : Nat) : Hook Unit := do
  let endpoints ← buildDatabaseEndpoints charm
  ask (.setEndpoints relation (",".intercalate endpoints.1))
  ask (.setReadOnlyEndpoints relation (",".intercalate endpoints.2))

/-- `EventHelpers.update_database_endpoints`. Each database relation comes with
    whether a unit of the other application joined it. -/
def updateDatabaseEndpoints (charm : Charm) : Hook Unit := do
  if ← initialized charm then
    if ← isLeader then
      if ← ask .refreshing then pure ()
      else do
        let relations ← ask .databaseRelations
        if relations.isEmpty then pure ()
        else do
          updateAppLabels charm
          relations.forM fun relation =>
            if relation.2 then updateRelationEndpoints charm relation.1 else pure ()

end MysqlOperators.Helpers
