import MysqlOperators.Dispatchers
import MysqlOperators.DomainName
import MysqlOperators.HostsFiles
import MysqlOperators.KeyRotation
import MysqlOperators.LogRotation
import MysqlOperators.Records

/-!
The state classes of the peer relation. Each unit has a databag of its own and the
application has one, a databag is a dictionary of texts, and the classes read and write
the entries as flags, process ids, names, addresses and JSON. What a hook has written
is seen once it has ended, and never if it fails.
-/
namespace MysqlOperators.PeerStates
open MysqlOperators.External MysqlOperators.Helpers MysqlOperators.Dispatchers MysqlOperators.Records
open MysqlOperators.KeyRotation.PeerStateApp (buildSecretUriKey uriText)
open MysqlOperators.DomainName.PeerStateApp (nameText)
open Function (update update_self update_of_ne)

abbrev Bag := Mapping String String

/-! ### Texts -/

def unknown : String := "UNKNOWN"

/-- `str(flag).lower()`. -/
def flagText (flag : Bool) : String := if flag then "true" else "false"

/-- A flag that is set is compared with the text of a true one. -/
def readFlag (true_ : String) (text : Option String) : Option Bool := (nonEmpty text).map (· == true_)

def readPid (text : Option String) : Except Exn (Option Nat) :=
  match nonEmpty text with
  | none => .ok none
  | some text =>
    match Python.number text.toList with
    | none => .error ⟨.valueError,"invalid literal for int() with base 10: '" ++ text ++ "'"⟩
    | some pid => .ok (some pid)

def readDetails (text : Option String) : Except Exn (Option Json.Value) :=
  match nonEmpty text with
  | none => .ok none
  | some text =>
    match Json.loads text.toList with
    | none => .error ⟨.valueError,"Expecting value"⟩
    | some details => .ok (some details)

/-- A JSON object or another value with an encoding that can be read back. -/
structure Details where
  value : Json.Value
  sound : Json.Sound value

namespace Details

def text (details : Details) : String := String.ofList (Json.dumps details.value)

/-- The dictionary of a host, as the charm publishes it. -/
def ofHost (host : String × List String) : Details :=
  ⟨HostsFiles.MachineHost.intoDict host,HostsFiles.sound_intoDict host⟩

end Details

theorem readFlag_flagText (flag : Bool) : readFlag "true" (some (flagText flag)) = some flag := by
  cases flag <;> rfl

theorem readPid_toString (pid : Nat) : readPid (some (toString pid)) = .ok (some pid) := by
  have nonempty : toString pid ≠ "" := by
    intro blank
    have := Python.number_toString pid
    rw [blank] at this
    cases this
  rw [readPid,nonEmpty_some nonempty]
  dsimp only
  rw [Python.number_toString]

theorem readDetails_text (details : Details) : readDetails (some details.text) = .ok (some details.value) := by
  obtain ⟨c,more,written,-⟩ := Json.dumps_begins details.sound
  have nonempty : details.text ≠ "" := by
    intro blank
    have := congrArg String.toList blank
    rw [Details.text,String.toList_ofList,written] at this
    cases this
  rw [readDetails,nonEmpty_some nonempty]
  dsimp only
  rw [Details.text,String.toList_ofList,Json.loads_dumps details.sound]

/-! ### The databag of a unit -/

inductive UnitField where
  | hostname
  | pid (s : OperatorService)
  | role
  | state
  | synced
  | leader
  | removing
  | address (relation : String)
deriving DecidableEq, Repr

namespace UnitField

def key : UnitField → String
  | hostname => "hostname-details"
  | pid s => s.pidKey
  | role => "member-role"
  | state => "member-state"
  | synced => LogRotation.syncKey
  | leader => "leader"
  | removing => "unit-status"
  | address relation => relation ++ "-address"

/-- What the getter of a field returns. -/
def Seen : UnitField → Type
  | hostname => Except Exn (Option Json.Value)
  | pid _ => Except Exn (Option Nat)
  | role | state => String
  | synced | leader | removing => Option Bool
  | address _ => Option String

def read : (f : UnitField) → Option String → f.Seen
  | hostname, text => readDetails text
  | pid _, text => readPid text
  | role, text => (nonEmpty text).getD unknown
  | state, text => (nonEmpty text).getD unknown
  | synced, text => readFlag "true" text
  | leader, text => readFlag "true" text
  | removing, text => readFlag "removing" text
  | address _, text => nonEmpty text

/-- The fields with keys of their own. -/
def named : List UnitField :=
  [hostname,pid .address,pid .logrotate,pid .selfHealing,role,state,synced,leader,removing]

theorem named_or_address (f : UnitField) : f ∈ named ∨ ∃ relation, f = address relation := by
  cases f with
  | address relation => exact .inr ⟨relation,rfl⟩
  | pid s => cases s <;> exact .inl (by decide)
  | _ => exact .inl (by decide)

theorem named_key_ne {f : UnitField} (member : f ∈ named) (relation : String) : f.key ≠ relation ++ "-address" := by
  have plain : ∀ f ∈ named, ¬ "-address".toList <:+ f.key.toList := by decide
  exact (append_ne (plain f member) relation).symm

theorem key_injective : Function.Injective key := by
  have distinct : ∀ f ∈ named, ∀ g ∈ named, f.key = g.key → f = g := by decide
  intro f g same
  rcases named_or_address f with first | ⟨r,rfl⟩ <;> rcases named_or_address g with second | ⟨r',rfl⟩
  · exact distinct f first g second same
  · exact absurd same (named_key_ne first r')
  · exact absurd same.symm (named_key_ne second r)
  · rw [(String.append_left_inj "-address").mp same]

end UnitField

/-- `PeerStateUnit`. -/
def unitSchema : Schema :=
  ⟨UnitField,inferInstance,UnitField.Seen,UnitField.key,UnitField.read,UnitField.key_injective⟩

namespace PeerStateUnit
open UnitField

def getAddressHostname (data : Bag) : Except Exn (Option Json.Value) := readDetails (data.get hostname.key)
def getServicePid (s : OperatorService) (data : Bag) : Except Exn (Option Nat) := readPid (data.get (pid s).key)
def getInstanceRole (data : Bag) : String := (nonEmpty (data.get role.key)).getD unknown
def getInstanceState (data : Bag) : String := (nonEmpty (data.get state.key)).getD unknown
def getLogrotateSyncFlag (data : Bag) : Option Bool := readFlag "true" (data.get synced.key)
def getUnitAddress (relation : String) (data : Bag) : Option String := nonEmpty (data.get (address relation).key)
def getUnitLeaderFlag (data : Bag) : Option Bool := readFlag "true" (data.get leader.key)
def getUnitRemovingFlag (data : Bag) : Option Bool := readFlag "removing" (data.get removing.key)

/-- What the getters return, field by field. -/
def getters (data : Bag) : unitSchema.Record
  | hostname => getAddressHostname data
  | pid s => getServicePid s data
  | role => getInstanceRole data
  | state => getInstanceState data
  | synced => getLogrotateSyncFlag data
  | leader => getUnitLeaderFlag data
  | removing => getUnitRemovingFlag data
  | address relation => getUnitAddress relation data

theorem getters_eq : getters = unitSchema.view := by
  funext data f
  cases f <;> rfl

def setAddressHostname (details : Details) (data : Bag) : Bag := data.set hostname.key details.text
def setServicePid (s : OperatorService) (managerPid : Nat) (data : Bag) : Bag :=
  data.set (pid s).key (toString managerPid)
def setInstanceRole (value : Option String) (data : Bag) : Bag := data.set role.key ((nonEmpty value).getD unknown)
def setInstanceState (value : Option String) (data : Bag) : Bag := data.set state.key ((nonEmpty value).getD unknown)
def setLogrotateSyncFlag (flag : Bool) (data : Bag) : Bag := data.set synced.key (flagText flag)
def setUnitAddress (relation value : String) (data : Bag) : Bag := data.set (address relation).key value
def setUnitLeaderFlag (flag : Bool) (data : Bag) : Bag := data.set leader.key (flagText flag)
def setUnitRemovingFlag (data : Bag) : Bag := data.set removing.key "removing"

def deleteServicePid (s : OperatorService) (data : Bag) : Bag := data.erase (pid s).key
def deleteLogrotateSyncFlag (data : Bag) : Bag := data.erase synced.key

end PeerStateUnit

inductive UnitCall where
  | setAddressHostname (details : Details)
  | setServicePid (s : OperatorService) (managerPid : Nat)
  | setInstanceRole (value : Option String)
  | setInstanceState (value : Option String)
  | setLogrotateSyncFlag (flag : Bool)
  | setUnitAddress (relation value : String)
  | setUnitLeaderFlag (flag : Bool)
  | setUnitRemovingFlag
  | deleteServicePid (s : OperatorService)
  | deleteLogrotateSyncFlag

namespace UnitCall

def run : UnitCall → Bag → Bag
  | setAddressHostname details => PeerStateUnit.setAddressHostname details
  | setServicePid s managerPid => PeerStateUnit.setServicePid s managerPid
  | setInstanceRole value => PeerStateUnit.setInstanceRole value
  | setInstanceState value => PeerStateUnit.setInstanceState value
  | setLogrotateSyncFlag flag => PeerStateUnit.setLogrotateSyncFlag flag
  | setUnitAddress relation value => PeerStateUnit.setUnitAddress relation value
  | setUnitLeaderFlag flag => PeerStateUnit.setUnitLeaderFlag flag
  | setUnitRemovingFlag => PeerStateUnit.setUnitRemovingFlag
  | deleteServicePid s => PeerStateUnit.deleteServicePid s
  | deleteLogrotateSyncFlag => PeerStateUnit.deleteLogrotateSyncFlag

/-- The one entry that a call writes. -/
def write : UnitCall → unitSchema.Write
  | setAddressHostname details => ⟨.hostname,some details.text⟩
  | setServicePid s managerPid => ⟨.pid s,some (toString managerPid)⟩
  | setInstanceRole value => ⟨.role,some ((nonEmpty value).getD unknown)⟩
  | setInstanceState value => ⟨.state,some ((nonEmpty value).getD unknown)⟩
  | setLogrotateSyncFlag flag => ⟨.synced,some (flagText flag)⟩
  | setUnitAddress relation value => ⟨.address relation,some value⟩
  | setUnitLeaderFlag flag => ⟨.leader,some (flagText flag)⟩
  | setUnitRemovingFlag => ⟨.removing,some "removing"⟩
  | deleteServicePid s => ⟨.pid s,none⟩
  | deleteLogrotateSyncFlag => ⟨.synced,none⟩

theorem run_eq (c : UnitCall) (data : Bag) : c.run data = c.write.apply data := by
  cases c <;> rfl

/-- What a call is for: the field has the value that was given. -/
def record (r : unitSchema.Record) : UnitCall → unitSchema.Record
  | setAddressHostname details => update r UnitField.hostname (.ok (some details.value))
  | setServicePid s managerPid => update r (UnitField.pid s) (.ok (some managerPid))
  | setInstanceRole value => update r UnitField.role ((nonEmpty value).getD unknown)
  | setInstanceState value => update r UnitField.state ((nonEmpty value).getD unknown)
  | setLogrotateSyncFlag flag => update r UnitField.synced (some flag)
  | setUnitAddress relation value => update r (UnitField.address relation) (if value = "" then none else some value)
  | setUnitLeaderFlag flag => update r UnitField.leader (some flag)
  | setUnitRemovingFlag => update r UnitField.removing (some true)
  | deleteServicePid s => update r (UnitField.pid s) (.ok none)
  | deleteLogrotateSyncFlag => update r UnitField.synced none

theorem read_unknown (value : Option String) :
    (nonEmpty (some ((nonEmpty value).getD unknown))).getD unknown = (nonEmpty value).getD unknown := by
  cases value with
  | none => rfl
  | some text =>
    by_cases blank : text = ""
    · subst blank
      rfl
    · rw [nonEmpty_some blank,Option.getD_some,nonEmpty_some blank,Option.getD_some]

theorem nonEmpty_if (value : String) : nonEmpty (some value) = if value = "" then none else some value := by
  by_cases blank : value = ""
  · subst blank
    rfl
  · rw [nonEmpty_some blank,if_neg blank]

theorem view_run (c : UnitCall) (data : Bag) :
    unitSchema.view (c.run data) = record (unitSchema.view data) c := by
  rw [run_eq,Schema.Write.view_apply]
  cases c with
  | setAddressHostname details => exact congrArg (update _ UnitField.hostname) (readDetails_text details)
  | setServicePid s managerPid => exact congrArg (update _ (UnitField.pid s)) (readPid_toString managerPid)
  | setInstanceRole value => exact congrArg (update _ UnitField.role) (read_unknown value)
  | setInstanceState value => exact congrArg (update _ UnitField.state) (read_unknown value)
  | setLogrotateSyncFlag flag => exact congrArg (update _ UnitField.synced) (readFlag_flagText flag)
  | setUnitAddress relation value => exact congrArg (update _ (UnitField.address relation)) (nonEmpty_if value)
  | setUnitLeaderFlag flag => exact congrArg (update _ UnitField.leader) (readFlag_flagText flag)
  | setUnitRemovingFlag | deleteServicePid s | deleteLogrotateSyncFlag => rfl

end UnitCall

/-! ### The databag of the application -/

inductive AppField where
  | clusterName
  | clusterSetName
  | removed
  | rejoin
  | privateKeyUri (kind : String)
deriving DecidableEq, Repr

namespace AppField

def key : AppField → String
  | clusterName => "cluster-name"
  | clusterSetName => DomainName.PeerStateApp.clusterSetNameKey
  | removed => DomainName.PeerStateApp.clusterRemovedKey
  | rejoin => "rejoin-secondaries"
  | privateKeyUri kind => buildSecretUriKey kind

def Seen : AppField → Type
  | clusterName | clusterSetName | privateKeyUri _ => Option String
  | removed | rejoin => Option Bool

def read : (f : AppField) → Option String → f.Seen
  | clusterName, text => nonEmpty text
  | clusterSetName, text => nonEmpty text
  | removed, text => readFlag "true" text
  | rejoin, text => readFlag "true" text
  | privateKeyUri _, text => nonEmpty text

/-- The fields with keys of their own. -/
def named : List AppField := [clusterName,clusterSetName,removed,rejoin]

theorem named_or_uri (f : AppField) : f ∈ named ∨ ∃ kind, f = privateKeyUri kind := by
  cases f with
  | privateKeyUri kind => exact .inr ⟨kind,rfl⟩
  | _ => exact .inl (by decide)

theorem named_key_ne {f : AppField} (member : f ∈ named) (kind : String) : f.key ≠ buildSecretUriKey kind := by
  have plain : ∀ f ∈ named, ¬ "-private-key".toList <:+ f.key.toList := by decide
  exact (append_ne (plain f member) kind).symm

theorem key_injective : Function.Injective key := by
  have distinct : ∀ f ∈ named, ∀ g ∈ named, f.key = g.key → f = g := by decide
  intro f g same
  rcases named_or_uri f with first | ⟨k,rfl⟩ <;> rcases named_or_uri g with second | ⟨k',rfl⟩
  · exact distinct f first g second same
  · exact absurd same (named_key_ne first k')
  · exact absurd same.symm (named_key_ne second k)
  · rw [(String.append_left_inj "-private-key").mp same]

end AppField

/-- `PeerStateApp`. -/
def appSchema : Schema :=
  ⟨AppField,inferInstance,AppField.Seen,AppField.key,AppField.read,AppField.key_injective⟩

namespace PeerStateApp
open AppField

def getClusterName (data : Bag) : Option String := nonEmpty (data.get clusterName.key)
def getClusterSetName (data : Bag) : Option String := nonEmpty (data.get clusterSetName.key)
def getClusterRemovedFlag (data : Bag) : Option Bool := readFlag "true" (data.get removed.key)
def getClusterRejoinFlag (data : Bag) : Option Bool := readFlag "true" (data.get rejoin.key)
def getPrivateKeyUri (kind : String) (data : Bag) : Option String := nonEmpty (data.get (buildSecretUriKey kind))

/-- What the getters return, field by field. -/
def getters (data : Bag) : appSchema.Record
  | .clusterName => getClusterName data
  | .clusterSetName => getClusterSetName data
  | .removed => getClusterRemovedFlag data
  | .rejoin => getClusterRejoinFlag data
  | .privateKeyUri kind => getPrivateKeyUri kind data

theorem getters_eq : getters = appSchema.view := by
  funext data f
  cases f <;> rfl

def setClusterName (name : Option String) (data : Bag) : Bag := data.set clusterName.key (nameText name)
def setClusterSetName (name : Option String) (data : Bag) : Bag := data.set clusterSetName.key (nameText name)
def setClusterRemovedFlag (flag : Bool) (data : Bag) : Bag := data.set removed.key (flagText flag)
def setClusterRejoinFlag (flag : Bool) (data : Bag) : Bag := data.set rejoin.key (flagText flag)
def setPrivateKeyUri (kind : String) (secretUri : Option String) (data : Bag) : Bag :=
  data.set (buildSecretUriKey kind) (uriText secretUri)

def deleteClusterRemovedFlag (data : Bag) : Bag := data.erase removed.key
def deleteClusterRejoinFlag (data : Bag) : Bag := data.erase rejoin.key
def deletePrivateKeyUri (kind : String) (data : Bag) : Bag := data.erase (buildSecretUriKey kind)

end PeerStateApp

inductive AppCall where
  | setClusterName (name : Option String)
  | setClusterSetName (name : Option String)
  | setClusterRemovedFlag (flag : Bool)
  | setClusterRejoinFlag (flag : Bool)
  | setPrivateKeyUri (kind : String) (secretUri : Option String)
  | deleteClusterRemovedFlag
  | deleteClusterRejoinFlag
  | deletePrivateKeyUri (kind : String)

namespace AppCall

def run : AppCall → Bag → Bag
  | setClusterName name => PeerStateApp.setClusterName name
  | setClusterSetName name => PeerStateApp.setClusterSetName name
  | setClusterRemovedFlag flag => PeerStateApp.setClusterRemovedFlag flag
  | setClusterRejoinFlag flag => PeerStateApp.setClusterRejoinFlag flag
  | setPrivateKeyUri kind secretUri => PeerStateApp.setPrivateKeyUri kind secretUri
  | deleteClusterRemovedFlag => PeerStateApp.deleteClusterRemovedFlag
  | deleteClusterRejoinFlag => PeerStateApp.deleteClusterRejoinFlag
  | deletePrivateKeyUri kind => PeerStateApp.deletePrivateKeyUri kind

/-- The one entry that a call writes. -/
def write : AppCall → appSchema.Write
  | setClusterName name => ⟨.clusterName,some (nameText name)⟩
  | setClusterSetName name => ⟨.clusterSetName,some (nameText name)⟩
  | setClusterRemovedFlag flag => ⟨.removed,some (flagText flag)⟩
  | setClusterRejoinFlag flag => ⟨.rejoin,some (flagText flag)⟩
  | setPrivateKeyUri kind secretUri => ⟨.privateKeyUri kind,some (uriText secretUri)⟩
  | deleteClusterRemovedFlag => ⟨.removed,none⟩
  | deleteClusterRejoinFlag => ⟨.rejoin,none⟩
  | deletePrivateKeyUri kind => ⟨.privateKeyUri kind,none⟩

theorem run_eq (c : AppCall) (data : Bag) : c.run data = c.write.apply data := by
  cases c <;> rfl

/-- `str(value)` of what may be missing, and nothing for an empty text. -/
def named (value : Option String) : Option String :=
  match value with
  | none => some "None"
  | some text => if text = "" then none else some text

/-- What a call is for. -/
def record (r : appSchema.Record) : AppCall → appSchema.Record
  | setClusterName name => update r AppField.clusterName (named name)
  | setClusterSetName name => update r AppField.clusterSetName (named name)
  | setClusterRemovedFlag flag => update r AppField.removed (some flag)
  | setClusterRejoinFlag flag => update r AppField.rejoin (some flag)
  | setPrivateKeyUri kind secretUri => update r (AppField.privateKeyUri kind) (named secretUri)
  | deleteClusterRemovedFlag => update r AppField.removed none
  | deleteClusterRejoinFlag => update r AppField.rejoin none
  | deletePrivateKeyUri kind => update r (AppField.privateKeyUri kind) none

theorem read_nameText (name : Option String) : nonEmpty (some (nameText name)) = named name := by
  cases name with
  | none => rfl
  | some text => exact UnitCall.nonEmpty_if text

theorem read_uriText (uri : Option String) : nonEmpty (some (uriText uri)) = named uri := by
  cases uri with
  | none => rfl
  | some text => exact UnitCall.nonEmpty_if text

theorem view_run (c : AppCall) (data : Bag) : appSchema.view (c.run data) = record (appSchema.view data) c := by
  rw [run_eq,Schema.Write.view_apply]
  cases c with
  | setClusterName name => exact congrArg (update _ AppField.clusterName) (read_nameText name)
  | setClusterSetName name => exact congrArg (update _ AppField.clusterSetName) (read_nameText name)
  | setClusterRemovedFlag flag => exact congrArg (update _ AppField.removed) (readFlag_flagText flag)
  | setClusterRejoinFlag flag => exact congrArg (update _ AppField.rejoin) (readFlag_flagText flag)
  | setPrivateKeyUri kind secretUri => exact congrArg (update _ (AppField.privateKeyUri kind)) (read_uriText secretUri)
  | deleteClusterRemovedFlag | deleteClusterRejoinFlag | deletePrivateKeyUri kind => rfl

end AppCall

/-! ### Hooks -/

/-- A hook of a unit: the calls it makes on the databag of its unit and on that of the
    application, and whether it ends without an error. -/
structure HookRun where
  unit : UnitId
  calls : List UnitCall
  appCalls : List AppCall
  succeeds : Bool

structure Databags where
  unit : UnitId → Bag
  app : Bag

structure States where
  unit : UnitId → unitSchema.Record
  app : appSchema.Record

namespace HookRun

/-- What a hook has written is discarded if it fails. -/
def databags (w : Databags) (h : HookRun) : Databags :=
  if h.succeeds then
    { unit := update w.unit h.unit (h.calls.foldl (fun data c => c.run data) (w.unit h.unit))
      app := h.appCalls.foldl (fun data c => c.run data) w.app }
  else w

def states (w : States) (h : HookRun) : States :=
  if h.succeeds then
    { unit := update w.unit h.unit (h.calls.foldl UnitCall.record (w.unit h.unit))
      app := h.appCalls.foldl AppCall.record w.app }
  else w

end HookRun

/-- What the getters return. -/
def Databags.states (w : Databags) : States := ⟨fun u => PeerStateUnit.getters (w.unit u),PeerStateApp.getters w.app⟩

theorem states_hook (w : Databags) (h : HookRun) : h.states w.states = (h.databags w).states := by
  unfold HookRun.databags HookRun.states Databags.states
  rw [PeerStateUnit.getters_eq,PeerStateApp.getters_eq]
  by_cases succeeds : h.succeeds = true
  · have own : h.calls.foldl UnitCall.record (unitSchema.view (w.unit h.unit)) =
        unitSchema.view (h.calls.foldl (fun data c => c.run data) (w.unit h.unit)) :=
      List.foldl_hom unitSchema.view fun data c => (UnitCall.view_run c data).symm
    have app : h.appCalls.foldl AppCall.record (appSchema.view w.app) =
        appSchema.view (h.appCalls.foldl (fun data c => c.run data) w.app) :=
      List.foldl_hom appSchema.view fun data c => (AppCall.view_run c data).symm
    rw [if_pos succeeds,if_pos succeeds,own,app]
    congr 1
    funext u
    by_cases same : u = h.unit
    · subst same
      dsimp only
      rw [update_self,update_self]
    · dsimp only
      rw [update_of_ne same,update_of_ne same]
  · rw [if_neg succeeds,if_neg succeeds]

/-- The getters see records whose fields have the values that were given last: over any
    hooks of any units, those that fail left out, each call changes the one field that it
    is for, of its unit or of the application. -/
theorem states_kept (w : Databags) (hooks : List HookRun) :
    (hooks.foldl HookRun.databags w).states = hooks.foldl HookRun.states w.states :=
  (List.foldl_hom Databags.states fun w h => states_hook w h).symm

def unpublished : Databags := ⟨fun _ => Mapping.empty,Mapping.empty⟩

def secondHost : String × List String := ("10.0.0.2",["mysql-1","mysql-1.lan"])

/-- A unit publishes its host, and another address in a hook that fails; the
    leader notes that there is no private key. -/
def publishing : List HookRun :=
  [⟨1,[.setAddressHostname (.ofHost secondHost),.setUnitAddress "database" "10.0.0.2"],[],true⟩,
   ⟨1,[.setUnitAddress "database" "10.0.0.9"],[],false⟩,
   ⟨0,[.setUnitLeaderFlag true],[.setClusterName (some "cluster"),.setPrivateKeyUri "tls-client" none],true⟩]

def published : Databags := publishing.foldl HookRun.databags unpublished

theorem states_kept_publishing :
    PeerStateUnit.getAddressHostname (published.unit 1) = .ok (some (HostsFiles.MachineHost.intoDict secondHost)) ∧
      PeerStateUnit.getUnitAddress "database" (published.unit 1) = some "10.0.0.2" ∧
      PeerStateApp.getPrivateKeyUri "tls-client" published.app = some "None" := by
  have kept : published.states = publishing.foldl HookRun.states unpublished.states := states_kept unpublished publishing
  -- the databags themselves are not looked at again
  generalize published = w at kept ⊢
  have unit : PeerStateUnit.getters (w.unit 1) = (publishing.foldl HookRun.states unpublished.states).unit 1 :=
    congrArg (fun s : States => s.unit 1) kept
  have app : PeerStateApp.getters w.app = (publishing.foldl HookRun.states unpublished.states).app :=
    congrArg States.app kept
  exact ⟨congrFun unit .hostname,congrFun unit (.address "database"),congrFun app (.privateKeyUri "tls-client")⟩

end MysqlOperators.PeerStates
