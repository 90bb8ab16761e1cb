import MysqlOperators.Quiet
import MysqlOperators.Scripted

/-!
The address of a machine: `AddressEventHandler`, `AddressResolutionManager` and the
address that the charm stores in the databag of the peer relation. A run is a list of
events of one unit: its bind address changes, or a hook runs, each with a script of its
own, and the databag writes of a hook that fails are discarded.
-/
namespace MysqlOperators.Address
open MysqlOperators.Program MysqlOperators.Program.Prog MysqlOperators.External MysqlOperators.Clients
open MysqlOperators.Workload MysqlOperators.Helpers MysqlOperators.Quiet MysqlOperators.Scripted
set_option linter.unusedSimpArgs false

/-! ### The handlers -/

/-- `VMCharm.set_unit_address` for the unit itself. -/
def setUnitAddress (relation : String) : Hook Unit := do
  match ← ask .peersRelation with
  | none => pure ()
  | some _ =>
    let address ← ask (.bindAddress relation)
    ask (.setUnitData (relation ++ "-address") address)

/-- `ClusterEventHandler._on_relation_created`. -/
def onRelationCreated : Hook Unit := setUnitAddress relationPeers

namespace AddressResolutionManager

def setHostname (address : String) (names : List String) : Hook Unit := ask (.setAddressHostname address names)

def cleanupHosts : Hook Unit := ask .removeHosts

def flushHostCache : Hook Unit := do
  let _ ← ask (.executeSql .own (.script "TRUNCATE TABLE performance_schema.host_cache"))

def updateHosts (hosts : List (String × List String)) : Hook Unit := do
  hosts.forM (fun host => ask (.updateHosts host.1 host.2))
  flushHostCache.tryExcept Exn.isExecutionError (fun _ => pure ())

end AddressResolutionManager

/-- The details of the peers that have published them. -/
def collectPeerHostnames : Hook (List (String × List String)) := do
  match ← ask .peersRelation with
  | none => pure []
  | some _ => ask .peerHostnames

def updateHostname (charm : Charm) : Hook Unit := do
  let address ← getUnitAddress charm charm.unit relationPeers
  let shortName ← ask .localHostname
  let fullName ← ask .fullHostname
  AddressResolutionManager.setHostname address [shortName,fullName]

def onAddressChange (charm : Charm) : Hook Unit := do
  if ← systemReady charm.substrate then do
    updateHostname charm
    ServerService.stop charm.substrate
    ServerService.start charm.substrate
  else ask .defer

def onRelationEvent (charm : Charm) : Hook Unit := do
  if ← systemReady charm.substrate then do
    let hostnames ← collectPeerHostnames
    if hostnames.isEmpty then pure ()
    else do
      AddressResolutionManager.cleanupHosts
      AddressResolutionManager.updateHosts hostnames
  else pure ()

/-! ### The machine -/

def addressKey : String := relationPeers ++ "-address"

/-- Whether the peer relation is there, the address that Juju binds it to, and the two
    entries of the unit in its databag. -/
structure Machine where
  related : Bool
  bind : String
  address : Option String
  hostname : Option (String × List String)
deriving DecidableEq, Repr

namespace Machine

/-- What the databag of the unit holds of its address. -/
def own (w : Machine) : Databag :=
  match w.address with
  | none => []
  | some address => [(addressKey,address)]

def answer (w : Machine) : (c : Call) → Except Exn (Reply c) → Except Exn (Reply c)
  | .peersRelation, .ok peers => .ok (if w.related then some { peers.getD default with own := w.own } else none)
  | .bindAddress relation, .ok address => .ok (if relation = relationPeers then w.bind else address)
  | _, r => r

/-- A write of a unit without the relation is lost. -/
def write (w : Machine) : Call → Machine
  | .setUnitData key value => if w.related ∧ key = addressKey then { w with address := some value } else w
  | .setAddressHostname address names => if w.related then { w with hostname := some (address,names) } else w
  | _ => w

end Machine

def rules : Rules Machine Call Reply Exn where
  answer := Machine.answer
  effect w c r happened := match r with
    | .ok _ => w.write c
    | .error _ => if happened then w.write c else w

/-- What a hook leaves: its writes, if it has succeeded. -/
def hook (p : Hook Unit) (script : Script Call Reply Exn) (w : Machine) : Machine :=
  match play rules script p w with
  | (.ok _,s) => s.world
  | (.error _,_) => w

inductive Event where
  | relate
  | move (bind : String)
  | relationCreated (script : Script Call Reply Exn)
  | addressChange (script : Script Call Reply Exn)
  | relationEvent (script : Script Call Reply Exn)

def step (charm : Charm) (w : Machine) : Event → Machine
  | .relate => { w with related := true }
  | .move bind => { w with bind := bind }
  | .relationCreated script => hook onRelationCreated script w
  | .addressChange script => hook (onAddressChange charm) script w
  | .relationEvent script => hook (onRelationEvent charm) script w

/-- A unit that has just been deployed. -/
def fresh (bind : String) : Machine := ⟨false,bind,none,none⟩

def after (charm : Charm) (bind : String) (events : List Event) : Machine :=
  events.foldl (step charm) (fresh bind)

/-- Both entries of the databag hold the address of the machine. -/
def Propagated (w : Machine) : Prop := w.address = some w.bind ∧ ∃ names, w.hostname = some (w.bind,names)

/-! ### What has been stored -/

/-- The calls that store an address succeed. -/
def stores (script : Script Call Reply Exn) (bind : String) : Bool :=
  (script.reply .peersRelation 0).isOk && (script.reply (.bindAddress relationPeers) 0).isOk &&
    (script.reply (.setUnitData addressKey bind) 0).isOk

/-- Whether there is the relation, the address of the machine, and the address that it
    had at the last relation-created event whose calls succeeded. -/
structure History where
  related : Bool
  bind : String
  stored : Option String
deriving DecidableEq, Repr

namespace History

def step (h : History) : Event → History
  | .relate => { h with related := true }
  | .move bind => { h with bind := bind }
  | .relationCreated script => if h.related && stores script h.bind then { h with stored := some h.bind } else h
  | .addressChange _ | .relationEvent _ => h

end History

def history (bind : String) (events : List Event) : History := events.foldl History.step ⟨false,bind,none⟩

/-! ### The steps -/

section
variable {w : Machine} {script : Script Call Reply Exn}

theorem write_bind (w : Machine) (c : Call) : (w.write c).bind = w.bind ∧ (w.write c).related = w.related := by
  unfold Machine.write
  split
  · split <;> exact ⟨rfl,rfl⟩
  · split <;> exact ⟨rfl,rfl⟩
  · exact ⟨rfl,rfl⟩

/-- No hook changes the relation or the address of the machine. -/
theorem hook_bind (p : Hook Unit) (script : Script Call Reply Exn) (w : Machine) :
    (hook p script w).bind = w.bind ∧ (hook p script w).related = w.related := by
  have same (v : Machine) (c : Call) (r : Except Exn (Reply c)) (happened : Bool) :
      ((rules.effect v c r happened).bind,(rules.effect v c r happened).related) = (v.bind,v.related) := by
    obtain ⟨bind,related⟩ := write_bind v c
    simp only [rules]
    split
    · rw [bind,related]
    · split
      · rw [bind,related]
      · rfl
  have kept := run_keeps rules script (fun v => (v.bind,v.related)) (fun v c r happened _ => same v c r happened)
    (avoids_of_never p) ⟨w,[]⟩
  unfold hook play
  rcases ran : run (respond rules script) p ⟨w,[]⟩ with ⟨e | a,s⟩
  · exact ⟨rfl,rfl⟩
  · rw [ran] at kept
    exact Prod.mk.inj kept

def storesAddress : Call → Bool
  | .setUnitData _ _ => true
  | _ => false

def writes (c : Call) : Bool :=
  storesAddress c || match c with
    | .setAddressHostname _ _ => true
    | _ => false

theorem write_address {c : Call} (other : storesAddress c = false) (w : Machine) : (w.write c).address = w.address := by
  unfold Machine.write
  split
  · cases other
  · split <;> rfl
  · rfl

theorem write_other {c : Call} (other : writes c = false) (w : Machine) : w.write c = w := by
  unfold Machine.write
  split
  · cases other
  · cases other
  · rfl

theorem hook_address {p : Hook Unit} (keeps : Avoids (fun c => storesAddress c = true) p)
    (script : Script Call Reply Exn) (w : Machine) : (hook p script w).address = w.address := by
  have kept := run_keeps rules script Machine.address (fun w c r happened other => by
    have same := write_address (by simpa using other) w
    simp only [rules]
    split
    · exact same
    · split
      · exact same
      · rfl) keeps ⟨w,[]⟩
  unfold hook play
  rcases ran : run (respond rules script) p ⟨w,[]⟩ with ⟨e | a,s⟩
  · rfl
  · rw [ran] at kept
    exact kept

/-- A call that writes nothing. -/
theorem respond_still {c : Call} (other : writes c = false) (log : List Call) :
    respond rules script ⟨w,log⟩ c = (w.answer c (script.reply c (log.count c)),⟨w,log ++ [c]⟩) := by
  simp only [respond,rules,write_other other,ite_self]
  split <;> rfl

variable (script) in
theorem run_still {α : Type} {p : Hook α} (still : Avoids (fun c => writes c = true) p) (s : Scene Machine Call) :
    (run (respond rules script) p s).2.world = s.world := by
  refine run_keeps rules script id (fun w c r happened other => ?_) still s
  have same := write_other (by simpa using other) w
  simp only [rules,same,ite_self]
  split <;> rfl

/-- A relation-created event stores the address of its time. -/
theorem relationCreated_address (script : Script Call Reply Exn) (w : Machine) :
    (hook onRelationCreated script w).address =
      if w.related && stores script w.bind then some w.bind else w.address := by
  rw [hook,play,onRelationCreated,setUnitAddress,run_bind,run_perform,respond_still rfl,List.count_nil]
  rcases asked : script.reply .peersRelation 0 with e | peers
  · simp [Machine.answer,stores,asked,Except.isOk,Except.toBool]
  · by_cases related : w.related = true
    · simp only [Machine.answer,asked,related,if_true,List.nil_append]
      rw [run_bind,run_perform,respond_still rfl]
      rcases bound : script.reply (.bindAddress relationPeers) 0 with e | address
      · simp [Machine.answer,stores,asked,bound,Except.isOk,Except.toBool]
      · have second : [Call.peersRelation].count (.bindAddress relationPeers) = 0 := by decide
        have third : ([Call.peersRelation] ++ [Call.bindAddress relationPeers]).count (.setUnitData addressKey w.bind) =
            0 := by simp
        rw [second,bound]
        simp only [Machine.answer,if_true,run_perform,respond]
        rw [show relationPeers ++ "-address" = addressKey from rfl,third]
        rcases stored : script.reply (.setUnitData addressKey w.bind) 0 with e | a
        · simp [rules,Machine.answer,stores,asked,bound,stored,Except.isOk,Except.toBool]
        · simp [rules,Machine.answer,Machine.write,related,stores,asked,bound,stored,Except.isOk,Except.toBool]
    · simp [Machine.answer,asked,related]

/-- The server knows nothing of the databag. -/
theorem still_restart (charm : Charm) : Avoids (fun c => writes c = true)
    (do ServerService.stop charm.substrate; ServerService.start charm.substrate : Hook Unit) := by
  refine avoids_bind (avoids_stop (fun c stops => ?_) _) fun _ => avoids_start (fun c starts => ?_) _
  · unfold stopsServer at stops
    split at stops <;> first | contradiction | exact Bool.false_ne_true
  · unfold startsServer at starts
    split at starts <;> first | contradiction | exact Bool.false_ne_true

theorem keeps_systemReady (s : Substrate) : Avoids (fun c => storesAddress c = true) (systemReady s) := by
  cases s with
  | vm => trivial
  | k8s => exact avoids_ask nofun

theorem keeps_updateHostname (charm : Charm) : Avoids (fun c => storesAddress c = true) (updateHostname charm) := by
  refine avoids_bind (avoids_getUnitAddress nofun nofun _ _ _) fun address => ?_
  refine avoids_bind (avoids_ask nofun) fun short => avoids_bind (avoids_ask nofun) fun full => ?_
  exact avoids_ask nofun

theorem keeps_addressChange (charm : Charm) : Avoids (fun c => storesAddress c = true) (onAddressChange charm) := by
  refine avoids_bind (keeps_systemReady _) fun ready => avoids_ite _ (fun _ => ?_) (fun _ => avoids_ask nofun)
  refine avoids_bind (keeps_updateHostname charm) fun _ => ?_
  refine avoids_mono (fun c stored => ?_) (still_restart charm)
  simp [writes,stored]

theorem keeps_relationEvent (charm : Charm) : Avoids (fun c => storesAddress c = true) (onRelationEvent charm) := by
  have collects : Avoids (fun c => storesAddress c = true) collectPeerHostnames := by
    refine avoids_bind (avoids_ask nofun) fun peers => ?_
    cases peers with
    | none => trivial
    | some _ => exact avoids_ask nofun
  refine avoids_bind (keeps_systemReady _) fun ready => avoids_ite _ (fun _ => ?_) (fun _ => trivial)
  refine avoids_bind collects fun hostnames => avoids_ite _ (fun _ => trivial) fun _ => ?_
  refine avoids_bind (avoids_ask nofun) fun _ => ?_
  refine avoids_bind (avoids_forM (fun _ => avoids_ask nofun) _) fun _ => ?_
  exact avoids_tryExcept (avoids_bind (avoids_ask nofun) fun _ => trivial) fun _ => trivial

/-! ### The runs -/

/-- One step keeps the machine in agreement with its history. -/
theorem step_history (charm : Charm) {h : History} (agrees : w.related = h.related ∧ w.bind = h.bind ∧ w.address = h.stored)
    (event : Event) : (step charm w event).related = (h.step event).related ∧
      (step charm w event).bind = (h.step event).bind ∧ (step charm w event).address = (h.step event).stored := by
  obtain ⟨related,bind,address⟩ := agrees
  cases event with
  | relate => exact ⟨rfl,bind,address⟩
  | move moved => exact ⟨related,rfl,address⟩
  | relationCreated script =>
    obtain ⟨sameBind,sameRelated⟩ := hook_bind onRelationCreated script w
    have stored := relationCreated_address script w
    simp only [step,History.step]
    by_cases done : (h.related && stores script h.bind) = true
    · rw [related,bind,if_pos done] at stored
      rw [if_pos done]
      exact ⟨sameRelated.trans related,sameBind.trans bind,stored⟩
    · rw [related,bind,if_neg done] at stored
      rw [if_neg done]
      exact ⟨sameRelated.trans related,sameBind.trans bind,stored.trans address⟩
  | addressChange script =>
    obtain ⟨sameBind,sameRelated⟩ := hook_bind (onAddressChange charm) script w
    have stored := hook_address (keeps_addressChange charm) script w
    exact ⟨sameRelated.trans related,sameBind.trans bind,stored.trans address⟩
  | relationEvent script =>
    obtain ⟨sameBind,sameRelated⟩ := hook_bind (onRelationEvent charm) script w
    have stored := hook_address (keeps_relationEvent charm) script w
    exact ⟨sameRelated.trans related,sameBind.trans bind,stored.trans address⟩

theorem after_history (charm : Charm) (bind : String) (events : List Event) :
    (after charm bind events).related = (history bind events).related ∧
      (after charm bind events).bind = (history bind events).bind ∧
      (after charm bind events).address = (history bind events).stored := by
  have agrees : ∀ (events : List Event) (w : Machine) (h : History),
      w.related = h.related ∧ w.bind = h.bind ∧ w.address = h.stored →
      (events.foldl (step charm) w).related = (events.foldl History.step h).related ∧
        (events.foldl (step charm) w).bind = (events.foldl History.step h).bind ∧
        (events.foldl (step charm) w).address = (events.foldl History.step h).stored := by
    intro events
    induction events with
    | nil => exact fun w h agrees => agrees
    | cons event rest ih => exact fun w h agrees => ih _ _ (step_history charm agrees event)
  exact agrees events _ _ ⟨rfl,rfl,rfl⟩

/-- Nothing is stored without the relation. -/
theorem history_related (bind : String) (events : List Event) {address : String}
    (stored : (history bind events).stored = some address) : (history bind events).related = true := by
  have kept : ∀ (events : List Event) (h : History), (h.stored.isSome → h.related = true) →
      (events.foldl History.step h).stored.isSome → (events.foldl History.step h).related = true := by
    intro events
    induction events with
    | nil => exact fun h before => before
    | cons event rest ih =>
      refine fun h before => ih _ ?_
      cases event with
      | relate => exact fun _ => rfl
      | move moved => exact before
      | relationCreated script =>
        simp only [History.step]
        split
        · rename_i done
          intro _
          simp only [Bool.and_eq_true] at done
          exact done.1
        · exact before
      | addressChange script => exact before
      | relationEvent script => exact before
  exact kept events _ nofun (by rw [show List.foldl _ _ _ = history bind events from rfl,stored]; rfl)

/-- What a unit of a machine reads as its own address. -/
theorem read_address {charm : Charm} (vm : charm.substrate = .vm) (related : w.related = true) {stored address : String}
    (has : w.address = some stored) {log : List Call} {s : Scene Machine Call}
    (ran : run (respond rules script) (getUnitAddress charm charm.unit relationPeers) ⟨w,log⟩ = (.ok address,s)) :
    address = stored ∧ s.world = w := by
  have own : (PeerStateUnit.getUnitAddress w.own relationPeers).getD "" = stored := by
    have found : w.own.lookup (relationPeers ++ "-address") = some stored := by
      rw [Machine.own,has,show relationPeers ++ "-address" = addressKey from rfl]
      simp
    rw [PeerStateUnit.getUnitAddress,setting,found]
    by_cases empty : stored = ""
    · rw [empty]
      rfl
    · simp [nonEmpty,empty]
  rw [getUnitAddress,vm] at ran
  obtain ⟨peers,s',asked,rest⟩ := run_bind_eq_ok _ ran
  rw [run_perform,respond_still rfl] at asked
  obtain ⟨answered,scene⟩ := Prod.mk.inj asked
  rcases reply : script.reply .peersRelation (log.count .peersRelation) with e | found
  · rw [reply] at answered
    cases answered
  · rw [reply] at answered
    simp only [Machine.answer,related,if_true,Except.ok.injEq] at answered
    subst answered
    simp only [if_true,run_pure] at rest
    obtain ⟨read,scene'⟩ := Prod.mk.inj rest
    rw [own] at read
    rw [← scene',← scene]
    exact ⟨(Except.ok.inj read).symm,rfl⟩

/-- A completed address change writes the stored address. -/
theorem addressChange_hostname {charm : Charm} (vm : charm.substrate = .vm) (related : w.related = true) {stored : String}
    (has : w.address = some stored) (completes : (play rules script (onAddressChange charm) w).1 = .ok ()) :
    ∃ names, (hook (onAddressChange charm) script w).hostname = some (stored,names) := by
  rcases ran : play rules script (onAddressChange charm) w with ⟨e | u,s⟩
  · rw [ran] at completes
    cases completes
  · rw [hook,ran]
    rw [play,onAddressChange,vm] at ran
    obtain ⟨ready,s₀,first,rest⟩ := run_bind_eq_ok _ ran
    obtain ⟨rfl,rfl⟩ : ready = true ∧ s₀ = ⟨w,[]⟩ := by
      cases first
      exact ⟨rfl,rfl⟩
    obtain ⟨_,s₁,updates,restarts⟩ := run_bind_eq_ok _ rest
    obtain ⟨address,s₂,reads,rest⟩ := run_bind_eq_ok _ updates
    obtain ⟨short,s₃,asksShort,rest⟩ := run_bind_eq_ok _ rest
    obtain ⟨full,s₄,asksFull,sets⟩ := run_bind_eq_ok _ rest
    obtain ⟨rfl,same⟩ := read_address vm related has reads
    have sameShort : s₃.world = s₂.world := by
      rw [run_perform,respond_still rfl] at asksShort
      exact (congrArg (fun x => x.2.world) asksShort).symm
    have sameFull : s₄.world = s₃.world := by
      rw [run_perform,respond_still rfl] at asksFull
      exact (congrArg (fun x => x.2.world) asksFull).symm
    have before : s₄.world = w := sameFull.trans (sameShort.trans same)
    have written : s₁.world.hostname = some (address,[short,full]) := by
      rw [AddressResolutionManager.setHostname,run_perform,respond] at sets
      have answered : script.reply (.setAddressHostname address [short,full]) _ = .ok _ := congrArg Prod.fst sets
      rw [← congrArg (fun x => x.2.world) sets]
      simp [rules,Machine.answer,answered,Machine.write,before,related]
    have kept : s.world = s₁.world := by
      have still := run_still script (still_restart charm) s₁
      rw [vm] at still
      rw [← still,restarts]
    refine ⟨[short,full],?_⟩
    show s.world.hostname = _
    rw [kept,written]

/-- For every machine, every sequence of events and every outcome of every call: a
    completed address change propagates the address exactly if it is the one that was
    stored last. -/
theorem propagated_iff (charm : Charm) (vm : charm.substrate = .vm) (bind : String) (events : List Event)
    (script : Script Call Reply Exn)
    (completes : (play rules script (onAddressChange charm) (after charm bind events)).1 = .ok ()) :
    Propagated (after charm bind (events ++ [.addressChange script])) ↔
      (history bind events).stored = some (history bind events).bind := by
  obtain ⟨related,sameBind,address⟩ := after_history charm bind events
  have last : after charm bind (events ++ [.addressChange script]) =
      hook (onAddressChange charm) script (after charm bind events) := by
    rw [after,List.foldl_append]
    rfl
  have keptBind := (hook_bind (onAddressChange charm) script (after charm bind events)).1
  have keptAddress := hook_address (keeps_addressChange charm) script (after charm bind events)
  rw [last,Propagated,keptBind,keptAddress,address,sameBind]
  constructor
  · exact fun propagated => propagated.1
  · intro stored
    have has : (after charm bind events).address = some (history bind events).bind := address.trans stored
    exact ⟨stored,addressChange_hostname vm (related.trans (history_related bind events stored)) has completes⟩

end

def movedUnit : Charm := ⟨.vm,"mysql",0,"cluster","10.0.0.10"⟩

/-- Every call succeeds. -/
def replies : Script Call Reply Exn where
  reply
    | .localHostname,_ => .ok "juju-0"
    | .fullHostname,_ => .ok "juju-0.lxd"
    | .snapPresent,_ => .ok true
    | _,_ => .ok default
  takesEffect _ _ := true

theorem propagated_created :
    (play rules replies (onAddressChange movedUnit)
      (after movedUnit "10.0.0.10" [.relate,.relationCreated replies])).1 = .ok () ∧
    Propagated (after movedUnit "10.0.0.10" [.relate,.relationCreated replies,.addressChange replies]) := by
  have completes : (play rules replies (onAddressChange movedUnit)
      (after movedUnit "10.0.0.10" [.relate,.relationCreated replies])).1 = .ok () := by decide +kernel
  refine ⟨completes,?_⟩
  exact (propagated_iff movedUnit rfl "10.0.0.10" [.relate,.relationCreated replies] replies completes).mpr
    (by decide +kernel)

/-- The address changes once the relation has been created, and is never stored. -/
theorem moved_stays_stale : ¬ ∀ (charm : Charm) (bind : String) (events : List Event) (script : Script Call Reply Exn),
    charm.substrate = .vm → (play rules script (onAddressChange charm) (after charm bind events)).1 = .ok () →
    Propagated (after charm bind (events ++ [.addressChange script])) := by
  intro always
  have propagated := always movedUnit "10.0.0.10" [.relate,.relationCreated replies,.move "10.0.0.11"] replies rfl
    (by decide +kernel)
  have stale : (after movedUnit "10.0.0.10"
      [.relate,.relationCreated replies,.move "10.0.0.11",.addressChange replies]).address = some "10.0.0.10" := by
    decide +kernel
  have current := propagated.1
  rw [show [Event.relate,.relationCreated replies,.move "10.0.0.11"] ++ [Event.addressChange replies] =
    [.relate,.relationCreated replies,.move "10.0.0.11",.addressChange replies] from rfl,stale] at current
  revert current
  decide +kernel

end MysqlOperators.Address
