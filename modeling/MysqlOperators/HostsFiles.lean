import MysqlOperators.Address
import MysqlOperators.Json

/-!
The host files of the machines. Every unit publishes its address and its names as JSON
in the databag of the peer relation, and rewrites its entries in `/etc/hosts` from what
its peers have published. The files outlive a hook that raises, the databag does not,
and other programs have entries of their own in the files.
-/
namespace MysqlOperators.HostsFiles
open MysqlOperators.Program MysqlOperators.Program.Prog MysqlOperators.External MysqlOperators.Helpers
open MysqlOperators.Quiet MysqlOperators.Scripted MysqlOperators.Address
open MysqlOperators.Json (textOf stringOf strings loads dumps)
open Function (update update_self update_of_ne)
set_option linter.unusedSimpArgs false

/-! ### The file -/

structure Entry where
  address : String
  names : List String
  comment : Option String
deriving DecidableEq, Repr

inductive Line where
  | host (e : Entry)
  /-- A line that names no host. -/
  | text (t : String)
deriving DecidableEq, Repr

def hostComment : String := "Managed by Charmed MySQL"

/-- The address under which MAAS enters the name of a machine. -/
def injectedAddress : String := "127.0.1.1"

/-- Two entries for one address or one name. -/
def Entry.Clashes (e other : Entry) : Prop := e.address = other.address ∨ ∃ name ∈ e.names, name ∈ other.names

/-- What the charm uses of `python_hosts`: which entries `remove_all_matching` takes to
    match an address and a name, and the file after `add`, which leaves out an entry
    that clashes with one that is there. -/
structure Library where
  matching : (address name : String) → Entry → Bool
  add : List Line → Entry → List Line
  matching_both : ∀ {address name e}, e.address = address → name ∈ e.names → matching address name e = true
  matching_only : ∀ {address name e}, matching address name e = true → e.address = address ∨ name ∈ e.names
  add_cases : ∀ lines e, add lines e = lines ++ [.host e] ∨
    add lines e = lines ∧ ∃ other, .host other ∈ lines ∧ e.Clashes other

def isManaged : Line → Bool
  | .host e => decide (e.comment = some hostComment)
  | .text _ => false

/-- The entries of the charm. -/
def managed (lines : List Line) : List Line := lines.filter isManaged

namespace MachineRuntime
variable (lib : Library)

def isInjected (fqdn : String) : Line → Bool
  | .host e => lib.matching injectedAddress fqdn e
  | .text _ => false

def removeHosts (fqdn : String) (lines : List Line) : List Line :=
  (lines.filter (fun line => !isInjected lib fqdn line)).filter (fun line => !isManaged line)

def entryOf (host : String × List String) : Entry := ⟨host.1,host.2,some hostComment⟩

def updateHosts (lines : List Line) (host : String × List String) : List Line := lib.add lines (entryOf host)

/-- The lines that are neither the charm's nor match the entry of MAAS. -/
def foreign (fqdn : String) (lines : List Line) : List Line :=
  lines.filter (fun line => !isInjected lib fqdn line && !isManaged line)

end MachineRuntime

/-! ### The details of a host -/

namespace MachineHost

def addressField : Json.Text := textOf "address".toList
def namesField : Json.Text := textOf "names".toList

def intoDict (host : String × List String) : Json.Value :=
  .object [(addressField,stringOf host.1),(namesField,strings host.2)]

/-- A text without surrogates. -/
def ofText (text : Json.Text) : Option String :=
  if text.all (fun n => decide n.isValidChar) then some (String.ofList (text.map Char.ofNat)) else none

def ofString : Json.Value → Option String
  | .string text => ofText text
  | _ => none

/-- `from_dict`: the two fields of the class, and no others. -/
def fromDict (members : List (Json.Text × Json.Value)) : Option (String × List String) :=
  if members.length = 2 then
    match members.lookup addressField, members.lookup namesField with
    | some address, some (.array names) => do
      let address ← ofString address
      let names ← names.mapM ofString
      some (address,names)
    | _, _ => none
  else none

end MachineHost

namespace PeerStateUnit

/-- `set_address_hostname`. -/
def hostnameDetails (host : String × List String) : String := String.ofList (dumps (MachineHost.intoDict host))

/-- `get_address_hostname`, of a unit that has details: the dictionary, if it is one. -/
def getAddressHostname (details : String) : Option (List (Json.Text × Json.Value)) :=
  match loads details.toList with
  | some (.object members) => some members
  | _ => none

end PeerStateUnit

/-- The hosts of the peers that have published theirs. -/
def collect : List (Option String) → Option (List (String × List String))
  | [] => some []
  | details :: peers =>
    match nonEmpty details with
    | none => collect peers
    | some details => do
      let members ← PeerStateUnit.getAddressHostname details
      if members = [] then collect peers
      else do
        let host ← MachineHost.fromDict members
        let hosts ← collect peers
        some (host :: hosts)

/-! ### Runs -/

/-- What a hook sees and writes: the name of its machine, what its peers have published,
    the hosts file, and what its unit publishes. -/
structure Session where
  fqdn : String
  peers : List (Option String)
  lines : List Line
  own : Option String

def answer (w : Session) : (c : Call) → Except Exn (Reply c) → Except Exn (Reply c)
  | .peersRelation, .ok peers => .ok (some (peers.getD default))
  | .fullHostname, .ok _ => .ok w.fqdn
  | .peerHostnames, .ok _ =>
    match collect w.peers with
    | some hosts => .ok hosts
    | none => .error ⟨.valueError,"Expecting value"⟩
  | _, r => r

def write (lib : Library) (w : Session) : Call → Session
  | .setAddressHostname address names => { w with own := some (PeerStateUnit.hostnameDetails (address,names)) }
  | .removeHosts => { w with lines := MachineRuntime.removeHosts lib w.fqdn w.lines }
  | .updateHosts address names => { w with lines := MachineRuntime.updateHosts lib w.lines (address,names) }
  | _ => w

def rules (lib : Library) : Rules Session Call Reply Exn where
  answer := answer
  effect w c r happened := match r with
    | .ok _ => write lib w c
    | .error _ => if happened then write lib w c else w

structure Application where
  charm : UnitId → Charm
  machines : ∀ u, (charm u).substrate = .vm

/-- The units, the names of their machines, the details that they have published, their
    hosts files, and whether the unit has rewritten its file since its peers, what they
    have published, or the rest of the file changed. -/
structure World where
  members : List UnitId
  fqdn : UnitId → String
  details : UnitId → Option String
  lines : UnitId → List Line
  current : UnitId → Bool

namespace World

def peers (w : World) (u : UnitId) : List (Option String) := (w.members.filter (· ≠ u)).map w.details

def session (w : World) (u : UnitId) : Session := ⟨w.fqdn u,w.peers u,w.lines u,w.details u⟩

end World

inductive Event where
  | join (u : UnitId) (fqdn : String) (lines : List Line)
  | depart (u : UnitId)
  /-- Someone else edits a hosts file. -/
  | edit (u : UnitId) (lines : List Line)
  | addressChange (u : UnitId) (script : Script Call Reply Exn)
  | relationEvent (u : UnitId) (script : Script Call Reply Exn)

section
variable (lib : Library) (app : Application)

def step (w : World) : Event → World
  | .join u fqdn lines =>
    if u ∈ w.members then w
    else
      { members := w.members ++ [u]
        fqdn := update w.fqdn u fqdn
        details := update w.details u none
        lines := update w.lines u lines
        current := fun _ => false }
  | .depart u => { w with members := w.members.filter (· ≠ u), current := fun _ => false }
  | .edit u lines => { w with lines := update w.lines u lines, current := update w.current u false }
  | .addressChange u script =>
    match play (rules lib) script (onAddressChange (app.charm u)) (w.session u) with
    | (.ok _,s) =>
      { w with
        details := update w.details u s.world.own
        lines := update w.lines u s.world.lines
        current := fun v => decide (v = u) && w.current v }
    | (.error _,s) => { w with lines := update w.lines u s.world.lines }
  | .relationEvent u script =>
    match play (rules lib) script (onRelationEvent (app.charm u)) (w.session u) with
    | (.ok _,s) =>
      { w with
        lines := update w.lines u s.world.lines
        current := update w.current u (decide (collect (w.peers u) ≠ some [])) }
    | (.error _,s) => { w with lines := update w.lines u s.world.lines, current := update w.current u false }

def run (w : World) (events : List Event) : World := events.foldl (step lib app) w

end

def fresh : World := ⟨[],fun _ => "",fun _ => none,fun _ => [],fun _ => false⟩

/-- The entries of the charm are those of the hosts, in their order, but for hosts that
    clash with a line that is there. -/
structure Synced (hosts : List (String × List String)) (lines : List Line) : Prop where
  sublist : (managed lines).Sublist (hosts.map (fun host => .host (MachineRuntime.entryOf host)))
  listed : ∀ host ∈ hosts, .host (MachineRuntime.entryOf host) ∈ lines ∨
    ∃ other, .host other ∈ lines ∧ (MachineRuntime.entryOf host).Clashes other

/-! ### What is published can be read -/

section
open MachineHost PeerStateUnit

theorem ofText_textOf (text : String) : ofText (textOf text.toList) = some text := by
  have valid : (textOf text.toList).all (fun n => decide n.isValidChar) = true := by
    rw [List.all_eq_true]
    intro n member
    obtain ⟨c,-,rfl⟩ := List.mem_map.mp member
    exact decide_eq_true c.valid
  have back : (textOf text.toList).map Char.ofNat = text.toList := by
    rw [textOf,List.map_map]
    have same : Char.ofNat ∘ Char.toNat = id := funext Char.ofNat_toNat
    rw [same,List.map_id]
  rw [ofText,if_pos valid,back,String.ofList_toList]

theorem mapM_ofString (names : List String) : (names.map stringOf).mapM ofString = some names := by
  induction names with
  | nil => rfl
  | cons name names ih =>
    have first : ofString (stringOf name) = some name := ofText_textOf name
    rw [List.map_cons,List.mapM_cons,first,ih]
    rfl

theorem sound_intoDict (host : String × List String) : Json.Sound (intoDict host) := by
  have different : [addressField,namesField].Nodup := by decide
  exact ⟨different,Json.readable_textOf _,Json.readable_textOf _,Json.readable_textOf _,Json.sound_strings host.2,
    trivial⟩

/-- What a unit publishes is what its peers read. -/
theorem getAddressHostname_details (host : String × List String) :
    getAddressHostname (hostnameDetails host) =
      some [(addressField,stringOf host.1),(namesField,strings host.2)] := by
  rw [getAddressHostname,hostnameDetails,String.toList_ofList,Json.loads_dumps (sound_intoDict host)]
  rfl

theorem fromDict_intoDict (host : String × List String) :
    fromDict [(addressField,stringOf host.1),(namesField,strings host.2)] = some host := by
  have address : ofString (stringOf host.1) = some host.1 := ofText_textOf host.1
  have names := mapM_ofString host.2
  have different : (namesField == addressField) = false := by decide
  simp [fromDict,List.lookup_cons,different,strings,address,names]

theorem details_injective {host host' : String × List String} (same : hostnameDetails host = hostnameDetails host') :
    host = host' := by
  have read := getAddressHostname_details host
  rw [same,getAddressHostname_details host'] at read
  have back := congrArg (Option.bind · fromDict) read
  simp only [Option.bind_some,fromDict_intoDict] at back
  exact (Option.some.inj back).symm

theorem details_full (host : String × List String) : hostnameDetails host ≠ "" := by
  intro empty
  have read := getAddressHostname_details host
  have nothing : getAddressHostname "" = none := by decide
  rw [empty,nothing] at read
  cases read

end

/-- Nothing yet, or the details of a host. -/
def Published (details : Option String) : Prop :=
  details = none ∨ ∃ host, details = some (PeerStateUnit.hostnameDetails host)

theorem collect_spec {peers : List (Option String)} (published : ∀ details ∈ peers, Published details) :
    ∃ hosts, collect peers = some hosts ∧
      ∀ host, host ∈ hosts ↔ some (PeerStateUnit.hostnameDetails host) ∈ peers := by
  induction peers with
  | nil => exact ⟨[],rfl,fun host => by simp⟩
  | cons details peers ih =>
    obtain ⟨first,rest⟩ := List.forall_mem_cons.mp published
    obtain ⟨hosts,collected,listed⟩ := ih rest
    rcases first with rfl | ⟨own,rfl⟩
    · exact ⟨hosts,by rw [collect]; exact collected,fun host => (listed host).trans (by simp)⟩
    · have full : nonEmpty (some (PeerStateUnit.hostnameDetails own)) = some (PeerStateUnit.hostnameDetails own) := by
        unfold nonEmpty
        split
        · rename_i same
          exact absurd (Option.some.inj same) (details_full own)
        · rfl
      refine ⟨own :: hosts,?_,fun host => ?_⟩
      · simp only [collect,full,getAddressHostname_details,Option.bind_eq_bind,Option.bind_some]
        rw [if_neg (by simp),fromDict_intoDict,collected]
        rfl
      · rw [List.mem_cons,List.mem_cons,listed host,Option.some.injEq]
        refine or_congr ⟨fun same => by rw [same],fun same => details_injective same⟩ Iff.rfl

/-! ### What one hook does to the file -/

section
variable {lib : Library} {script : Script Call Reply Exn}
open MachineRuntime

theorem foreign_removeHosts (fqdn : String) (lines : List Line) :
    foreign lib fqdn (removeHosts lib fqdn lines) = foreign lib fqdn lines := by
  simp only [foreign,removeHosts,List.filter_filter]
  congr 1
  funext line
  cases isInjected lib fqdn line <;> cases isManaged line <;> rfl

theorem managed_entryOf (host : String × List String) : isManaged (.host (entryOf host)) = true :=
  decide_eq_true (p := some hostComment = some hostComment) rfl

theorem foreign_updateHosts (fqdn : String) (lines : List Line) (host : String × List String) :
    foreign lib fqdn (updateHosts lib lines host) = foreign lib fqdn lines := by
  rcases lib.add_cases lines (entryOf host) with added | ⟨same,-⟩
  · rw [updateHosts,added,foreign,List.filter_append]
    have none : [Line.host (entryOf host)].filter (fun line => !isInjected lib fqdn line && !isManaged line) = [] := by
      simp [managed_entryOf]
    rw [none,List.append_nil,foreign]
  · rw [updateHosts,same]

/-- What no call of a hook changes. -/
structure Kept (lib : Library) (v w : Session) : Prop where
  fqdn : w.fqdn = v.fqdn
  peers : w.peers = v.peers
  foreign : foreign lib v.fqdn w.lines = foreign lib v.fqdn v.lines

theorem kept_write {v w : Session} (kept : Kept lib v w) (c : Call) : Kept lib v (write lib w c) := by
  obtain ⟨fqdn,peers,same⟩ := kept
  unfold write
  split
  · exact ⟨fqdn,peers,same⟩
  · refine ⟨fqdn,peers,?_⟩
    simp only [fqdn,foreign_removeHosts,same]
  · refine ⟨fqdn,peers,?_⟩
    simp only [foreign_updateHosts,same]
  · exact ⟨fqdn,peers,same⟩

theorem effect_cases (w : Session) (c : Call) (r : Except Exn (Reply c)) (happened : Bool) :
    (rules lib).effect w c r happened = write lib w c ∨ (rules lib).effect w c r happened = w := by
  simp only [rules]
  split
  · exact .inl rfl
  · by_cases done : happened = true
    · rw [if_pos done]
      exact .inl rfl
    · rw [if_neg done]
      exact .inr rfl

theorem hook_kept {α : Type} (p : Hook α) (v : Session) : Kept lib v (play (rules lib) script p v).2.world := by
  refine run_frame (P := fun s => Kept lib v s.world) (fun s c r happened _ kept => ?_) (avoids_of_never p) ⟨v,[]⟩
    ⟨rfl,rfl,rfl⟩
  show Kept lib v ((rules lib).effect s.world c r happened)
  rcases effect_cases s.world c r happened with wrote | same
  · rw [wrote]
    exact kept_write kept c
  · rw [same]
    exact kept

/-- Calls that rewrite the file. -/
def rewrites : Call → Bool
  | .removeHosts | .updateHosts _ _ => true
  | _ => false

theorem lines_kept {α : Type} {p : Hook α} (plain : Avoids (fun c => rewrites c = true) p) (s : Scene Session Call) :
    (Program.run (respond (rules lib) script) p s).2.world.lines = s.world.lines := by
  refine run_keeps (rules lib) script Session.lines (fun w c r happened other => ?_) plain s
  have same : (write lib w c).lines = w.lines := by
    unfold write
    split <;> first | rfl | exact absurd rfl other
  rcases effect_cases w c r happened with wrote | still
  · rw [wrote,same]
  · rw [still]

theorem plain_restart (s : Substrate) : Avoids (fun c => rewrites c = true)
    (do Workload.ServerService.stop s; Workload.ServerService.start s : Hook Unit) := by
  refine avoids_bind (avoids_stop (fun c stops => ?_) _) fun _ => avoids_start (fun c starts => ?_) _
  · unfold stopsServer at stops
    split at stops <;> first | contradiction | exact Bool.false_ne_true
  · unfold startsServer at starts
    split at starts <;> first | contradiction | exact Bool.false_ne_true

theorem plain_addressChange (charm : Charm) : Avoids (fun c => rewrites c = true) (onAddressChange charm) := by
  have ready : Avoids (fun c => rewrites c = true) (Workload.systemReady charm.substrate) := by
    cases charm.substrate with
    | vm => trivial
    | k8s => exact avoids_ask nofun
  have updates : Avoids (fun c => rewrites c = true) (updateHostname charm) :=
    avoids_bind (avoids_getUnitAddress nofun nofun _ _ _) fun _ =>
      avoids_bind (avoids_ask nofun) fun _ => avoids_bind (avoids_ask nofun) fun _ => avoids_ask nofun
  exact avoids_bind ready fun _ =>
    avoids_ite _ (fun _ => avoids_bind updates fun _ => plain_restart _) (fun _ => avoids_ask nofun)

/-- What a unit publishes is the details of a host. -/
theorem published_own {α : Type} (p : Hook α) {v : Session} (published : Published v.own) :
    Published (play (rules lib) script p v).2.world.own := by
  refine run_frame (P := fun s => Published s.world.own) (fun s c r happened _ kept => ?_) (avoids_of_never p) ⟨v,[]⟩
    published
  show Published ((rules lib).effect s.world c r happened).own
  have wrote : Published (write lib s.world c).own := by
    unfold write
    split
    · exact .inr ⟨_,rfl⟩
    all_goals exact kept
  rcases @effect_cases lib s.world c r happened with same | same
  · rw [same]
    exact wrote
  · rw [same]
    exact kept

/-! ### The rewritten file -/

theorem synced_removeHosts (fqdn : String) (lines : List Line) : Synced [] (removeHosts lib fqdn lines) := by
  refine ⟨?_,fun host member => (by cases member)⟩
  have none : managed (removeHosts lib fqdn lines) = [] := by
    rw [managed,removeHosts,List.filter_filter,List.filter_eq_nil_iff]
    intro line _
    simp
  rw [none]
  exact List.nil_sublist _

theorem synced_updateHosts {hosts : List (String × List String)} {lines : List Line} (synced : Synced hosts lines)
    (host : String × List String) : Synced (hosts ++ [host]) (updateHosts lib lines host) := by
  obtain ⟨sublist,listed⟩ := synced
  rcases lib.add_cases lines (entryOf host) with added | ⟨same,other,there,clash⟩
  · rw [updateHosts,added]
    refine ⟨?_,fun h member => ?_⟩
    · have own : managed [Line.host (entryOf host)] = [Line.host (entryOf host)] := by
        simp [managed,managed_entryOf]
      rw [managed,List.filter_append,← managed,← managed,own,List.map_append]
      exact sublist.append (List.Sublist.refl _)
    · rcases List.mem_append.mp member with before | new
      · rcases listed h before with present | ⟨other,there,clash⟩
        · exact .inl (List.mem_append_left _ present)
        · exact .inr ⟨other,List.mem_append_left _ there,clash⟩
      · obtain rfl := List.mem_singleton.mp new
        exact .inl (List.mem_append_right _ List.mem_cons_self)
  · rw [updateHosts,same]
    refine ⟨?_,fun h member => ?_⟩
    · rw [List.map_append]
      exact sublist.trans (List.sublist_append_left _ _)
    · rcases List.mem_append.mp member with before | new
      · exact listed h before
      · obtain rfl := List.mem_singleton.mp new
        exact .inr ⟨other,there,clash⟩

theorem leads_updateEach (hosts done : List (String × List String)) :
    Leads (rules lib) script (fun s => Synced done s.world.lines)
      (hosts.forM (fun host => ask (.updateHosts host.1 host.2)))
      (fun r s => r = .ok () → Synced (done ++ hosts) s.world.lines) := by
  induction hosts generalizing done with
  | nil => exact leads_ret fun s synced _ => by rw [List.append_nil]; exact synced
  | cons host hosts ih =>
    refine leads_bind (Q := fun r s => r = .ok () → Synced (done ++ [host]) s.world.lines) ?_ (fun _ => ?_)
      (fun _ _ _ => nofun)
    · refine leads_perform fun s n r happened synced _ done => ?_
      rw [done]
      exact synced_updateHosts synced host
    · intro s synced
      have rest := ih (done ++ [host]) s (synced rfl)
      rw [List.append_assoc,List.singleton_append] at rest
      exact rest

theorem leads_collect (v : Session) :
    Leads (rules lib) script (fun s => s.world = v) collectPeerHostnames
      (fun r s => s.world = v ∧ ∀ hosts, r = .ok hosts → collect v.peers = some hosts) := by
  refine leads_bind (Q := fun r s => s.world = v ∧ ∀ peers, r = .ok peers → peers ≠ none)
    (leads_perform fun s n r happened same answered => ⟨?_,fun peers read => ?_⟩) (fun peers => ?_)
    (fun _ _ known => ⟨known.1,nofun⟩)
  · subst same
    rcases @effect_cases lib s.world .peersRelation r happened with wrote | still
    · exact wrote
    · exact still
  · rw [read] at answered
    cases raw : script.reply .peersRelation n with
    | ok found =>
      rw [raw] at answered
      have read : peers = some (found.getD default) := Except.ok.inj answered
      rw [read]
      exact Option.some_ne_none _
    | error e =>
      rw [raw] at answered
      cases answered
  · cases peers with
    | none => exact leads_ret fun s known => absurd rfl (known.2 none rfl)
    | some found =>
      refine leads_perform fun s n r happened known answered => ⟨?_,fun hosts read => ?_⟩
      · have same := known.1
        subst same
        rcases @effect_cases lib s.world .peerHostnames r happened with wrote | still
        · exact wrote
        · exact still
      · rw [read,known.1] at answered
        cases raw : script.reply .peerHostnames n with
        | error e =>
          rw [raw] at answered
          cases answered
        | ok given =>
          rw [raw] at answered
          simp only [rules,answer] at answered
          cases collected : collect v.peers with
          | none =>
            rw [collected] at answered
            cases answered
          | some all =>
            rw [collected] at answered
            rw [Except.ok.inj answered]

/-- An event that is handled leaves the file as it is if no peer has published a host,
    and else with the hosts of the peers. -/
theorem leads_onRelationEvent {charm : Charm} (machine : charm.substrate = .vm) (v : Session) :
    Leads (rules lib) script (fun s => s.world = v) (onRelationEvent charm)
      (fun r s => r = .ok () → ∃ hosts, collect v.peers = some hosts ∧
        if hosts = [] then s.world.lines = v.lines else Synced hosts s.world.lines) := by
  have ready : onRelationEvent charm = (do
      let hostnames ← collectPeerHostnames
      if hostnames.isEmpty then pure ()
      else do
        AddressResolutionManager.cleanupHosts
        AddressResolutionManager.updateHosts hostnames) := by
    rw [onRelationEvent,machine]
    rfl
  rw [ready]
  refine leads_bind (leads_collect v) (fun hosts => ?_) (fun _ _ _ => nofun)
  by_cases empty : hosts = []
  · subst empty
    refine leads_ret fun s known _ => ⟨[],known.2 [] rfl,?_⟩
    rw [if_pos rfl,known.1]
  · rw [if_neg (by simpa using empty)]
    refine leads_bind (Q := fun r s => r = .ok () → Synced [] s.world.lines ∧ collect v.peers = some hosts) ?_
      (fun _ => ?_) (fun _ _ _ => nofun)
    · refine leads_perform fun s n r happened known _ done => ⟨?_,known.2 hosts rfl⟩
      rw [done]
      exact synced_removeHosts _ _
    · refine leads_bind (Q := fun r s => r = .ok () → Synced hosts s.world.lines ∧ collect v.peers = some hosts)
        (fun s cleaned done => ?_) (fun _ s written _ => ?_) (fun _ _ _ => nofun)
      · obtain ⟨removed,collected⟩ := cleaned rfl
        exact ⟨leads_updateEach hosts [] s removed done,collected⟩
      · obtain ⟨synced,collected⟩ := written rfl
        have flush : Avoids (fun c => rewrites c = true)
            (AddressResolutionManager.flushHostCache.tryExcept Exn.isExecutionError (fun _ => pure ())) :=
          avoids_tryExcept (avoids_bind (avoids_ask nofun) fun _ => trivial) (fun _ => trivial)
        refine ⟨hosts,collected,?_⟩
        rw [if_neg empty,lines_kept flush s]
        exact synced

end

/-! ### Whole runs -/

section
variable {lib : Library} {app : Application} {w : World}

/-- The file of a unit is edited by someone else, or is a new one. -/
def Edits (u : UnitId) : Event → Prop
  | .join v _ _ | .edit v _ => v = u
  | _ => False

theorem step_foreign {u : UnitId} {e : Event} (own : ¬ Edits u e) : (step lib app w e).fqdn u = w.fqdn u ∧
    MachineRuntime.foreign lib (w.fqdn u) ((step lib app w e).lines u) =
      MachineRuntime.foreign lib (w.fqdn u) (w.lines u) := by
  have hook {α : Type} (script : Script Call Reply Exn) (p : Hook α) (v : UnitId) :
      MachineRuntime.foreign lib (w.fqdn u)
        (update w.lines v (play (rules lib) script p (w.session v)).2.world.lines u) =
          MachineRuntime.foreign lib (w.fqdn u) (w.lines u) := by
    by_cases same : u = v
    · subst same
      rw [update_self]
      exact (hook_kept p (w.session u)).foreign
    · rw [update_of_ne same]
  cases e with
  | join v fqdn lines =>
    have other : u ≠ v := fun same => own same.symm
    rw [step]
    split
    · exact ⟨rfl,rfl⟩
    · exact ⟨update_of_ne other ..,by simp only [update_of_ne other]⟩
  | depart v => exact ⟨rfl,rfl⟩
  | edit v lines =>
    have other : u ≠ v := fun same => own same.symm
    exact ⟨rfl,by simp only [step,update_of_ne other]⟩
  | addressChange v script =>
    have kept := hook script (onAddressChange (app.charm v)) v
    rw [step]
    rcases ended : play (rules lib) script (onAddressChange (app.charm v)) (w.session v) with ⟨e | _,s⟩
    · rw [ended] at kept
      exact ⟨rfl,kept⟩
    · rw [ended] at kept
      exact ⟨rfl,kept⟩
  | relationEvent v script =>
    have kept := hook script (onRelationEvent (app.charm v)) v
    rw [step]
    rcases ended : play (rules lib) script (onRelationEvent (app.charm v)) (w.session v) with ⟨e | _,s⟩
    · rw [ended] at kept
      exact ⟨rfl,kept⟩
    · rw [ended] at kept
      exact ⟨rfl,kept⟩

/-- Whatever hooks run and wherever they fail, the lines of a hosts file that are neither
    the charm's nor match the entry of MAAS stay as they are, and in their order. -/
theorem others_untouched (lib : Library) (app : Application) (w : World) {u : UnitId} (events : List Event)
    (own : ∀ e ∈ events, ¬ Edits u e) :
    MachineRuntime.foreign lib (w.fqdn u) ((run lib app w events).lines u) =
      MachineRuntime.foreign lib (w.fqdn u) (w.lines u) := by
  induction events generalizing w with
  | nil => rfl
  | cons e events ih =>
    obtain ⟨first,rest⟩ := List.forall_mem_cons.mp own
    obtain ⟨named,kept⟩ := @step_foreign lib app w u e first
    have later := ih (step lib app w e) rest
    rw [named] at later
    exact later.trans kept

/-- Everything that is published can be read, and a current file holds the hosts of the
    peers. -/
structure Inv (w : World) : Prop where
  published : ∀ u, Published (w.details u)
  synced : ∀ u, w.current u = true → ∃ hosts, collect (w.peers u) = some hosts ∧ Synced hosts (w.lines u)

theorem inv_fresh : Inv fresh := ⟨fun _ => .inl rfl,nofun⟩

theorem peers_update (w : World) (u : UnitId) (details : Option String) :
    ({ w with details := update w.details u details } : World).peers u = w.peers u := by
  refine List.map_congr_left fun v member => ?_
  have other : v ≠ u := by simpa using (List.mem_filter.mp member).2
  exact update_of_ne other ..

theorem inv_step (inv : Inv w) (e : Event) : Inv (step lib app w e) := by
  cases e with
  | join u fqdn lines =>
    rw [step]
    split
    · exact inv
    · refine ⟨fun v => ?_,nofun⟩
      by_cases same : v = u
      · subst same
        exact .inl (update_self ..)
      · simp only [update_of_ne same]
        exact inv.published v
  | depart u => exact ⟨inv.published,nofun⟩
  | edit u lines =>
    refine ⟨inv.published,fun v now => ?_⟩
    by_cases same : v = u
    · subst same
      simp only [step,update_self] at now
      cases now
    · simp only [step,update_of_ne same] at now ⊢
      exact inv.synced v now
  | addressChange u script =>
    have kept := @lines_kept lib script _ _ (plain_addressChange (app.charm u)) ⟨w.session u,[]⟩
    have own := @published_own lib script _ (onAddressChange (app.charm u)) (w.session u) (inv.published u)
    rw [step]
    rcases ended : play (rules lib) script (onAddressChange (app.charm u)) (w.session u) with ⟨e | _,s⟩
    · have lines : s.world.lines = w.lines u := by
        rw [← play,ended] at kept
        exact kept
      simp only [lines,Function.update_eq_self]
      exact inv
    · have lines : s.world.lines = w.lines u := by
        rw [← play,ended] at kept
        exact kept
      simp only [lines,Function.update_eq_self]
      refine ⟨fun v => ?_,fun v now => ?_⟩
      · by_cases same : v = u
        · subst same
          simp only [update_self]
          rw [ended] at own
          exact own
        · simp only [update_of_ne same]
          exact inv.published v
      · obtain ⟨same,before⟩ := Bool.and_eq_true_iff.mp now
        obtain rfl := of_decide_eq_true same
        obtain ⟨hosts,collected,synced⟩ := inv.synced v before
        refine ⟨hosts,?_,synced⟩
        rw [← collected]
        exact congrArg collect (peers_update w v _)
  | relationEvent u script =>
    have led := @leads_onRelationEvent lib script _ (app.machines u) (w.session u) ⟨w.session u,[]⟩ rfl
    rw [step]
    rcases ended : play (rules lib) script (onRelationEvent (app.charm u)) (w.session u) with ⟨e | _,s⟩
    · refine ⟨inv.published,fun v now => ?_⟩
      by_cases same : v = u
      · subst same
        simp only [update_self] at now
        cases now
      · simp only [update_of_ne same] at now ⊢
        exact inv.synced v now
    · refine ⟨inv.published,fun v now => ?_⟩
      by_cases same : v = u
      · subst same
        simp only [update_self] at now ⊢
        rw [← play,ended] at led
        obtain ⟨hosts,collected,written⟩ := led rfl
        have some : hosts ≠ [] := by
          rintro rfl
          exact of_decide_eq_true now collected
        rw [if_neg some] at written
        exact ⟨hosts,collected,written⟩
      · simp only [update_of_ne same] at now ⊢
        exact inv.synced v now

theorem inv_run (inv : Inv w) (events : List Event) : Inv (run lib app w events) := by
  induction events generalizing w with
  | nil => exact inv
  | cons e events ih => exact ih (inv_step inv e)

/-- In a file that has been rewritten since the last change, the entries of the charm are
    those of the peers with published details, and no others, but for those that clash
    with a line that is there. -/
theorem peers_resolved (lib : Library) (app : Application) (events : List Event) {u : UnitId}
    (current : (run lib app fresh events).current u = true) :
    (∀ e, .host e ∈ managed ((run lib app fresh events).lines u) → ∃ v ∈ (run lib app fresh events).members, v ≠ u ∧
      (run lib app fresh events).details v = some (PeerStateUnit.hostnameDetails (e.address,e.names))) ∧
    ∀ v ∈ (run lib app fresh events).members, v ≠ u → ∀ host,
      (run lib app fresh events).details v = some (PeerStateUnit.hostnameDetails host) →
        .host (MachineRuntime.entryOf host) ∈ (run lib app fresh events).lines u ∨
          ∃ other, .host other ∈ (run lib app fresh events).lines u ∧ (MachineRuntime.entryOf host).Clashes other := by
  have inv := @inv_run lib app _ inv_fresh events
  generalize run lib app fresh events = w at inv current
  obtain ⟨hosts,collected,synced⟩ := inv.synced u current
  have published : ∀ details ∈ w.peers u, Published details := by
    intro details member
    obtain ⟨v,-,rfl⟩ := List.mem_map.mp member
    exact inv.published v
  obtain ⟨all,same,listed⟩ := collect_spec published
  obtain rfl : hosts = all := Option.some.inj (collected.symm.trans same)
  have peer {v : UnitId} {details : Option String} : v ∈ w.members.filter (· ≠ u) ↔ v ∈ w.members ∧ v ≠ u := by
    rw [List.mem_filter]
    simp
  refine ⟨fun e there => ?_,fun v member other host details => ?_⟩
  · obtain ⟨host,member,same⟩ := List.mem_map.mp (synced.sublist.mem there)
    obtain rfl := Line.host.inj same
    obtain ⟨v,joined,details⟩ := List.mem_map.mp ((listed host).mp member)
    obtain ⟨joined,other⟩ := List.mem_filter.mp joined
    exact ⟨v,joined,by simpa using other,details⟩
  · refine synced.listed host ((listed host).mpr (List.mem_map.mpr ⟨v,List.mem_filter.mpr ⟨member,?_⟩,details⟩))
    simpa using other

end

/-! ### A run -/

/-- Entries match by their address or by a name, and an entry is added unless it clashes. -/
def pythonHosts : Library where
  matching address name e := decide (e.address = address) || decide (name ∈ e.names)
  add lines e :=
    if lines.any (fun line => match line with
      | .host other => decide (e.address = other.address) || e.names.any (fun name => decide (name ∈ other.names))
      | .text _ => false) then lines
    else lines ++ [.host e]
  matching_both same _ := by simp [same]
  matching_only matched := by simpa using matched
  add_cases lines e := by
    split
    · rename_i clashes
      obtain ⟨line,member,clash⟩ := List.any_eq_true.mp clashes
      refine .inr ⟨rfl,?_⟩
      cases line with
      | text t => cases clash
      | host other =>
        refine ⟨other,member,?_⟩
        simpa [Entry.Clashes] using clash
    · exact .inl rfl

def machines : Application where
  charm u := ⟨.vm,"mysql",u,"cluster",""⟩
  machines _ := rfl

/-- Every call succeeds on a machine with an address and a name. -/
def smooth (address name : String) : Script Call Reply Exn where
  reply c _ :=
    match c with
    | .peersRelation => .ok (some ⟨[],[(addressKey,address)],0⟩)
    | .localHostname => .ok name
    | .snapPresent => .ok true
    | _ => .ok default
  takesEffect _ _ := false

def localhost : Line := .host ⟨"127.0.0.1",["localhost"],none⟩

/-- Two units publish their hosts, and the first one looks at the other. -/
def meeting : List Event :=
  [.join 0 "a.lan" [.text "# hosts",localhost,.host ⟨"127.0.1.1",["a.lan","a"],none⟩],.join 1 "b.lan" [localhost],
   .addressChange 0 (smooth "10.0.0.1" "a"),.addressChange 1 (smooth "10.0.0.2" "b"),
   .relationEvent 0 (smooth "10.0.0.1" "a")]

example : (run pythonHosts machines fresh meeting).lines 0 =
    [.text "# hosts",localhost,.host ⟨"10.0.0.2",["b","b.lan"],some hostComment⟩] := by decide +kernel

theorem others_untouched_meeting :
    MachineRuntime.foreign pythonHosts ((run pythonHosts machines fresh meeting).fqdn 0)
      ((run pythonHosts machines (run pythonHosts machines fresh meeting)
        [.addressChange 1 (smooth "10.0.0.3" "b"),.relationEvent 0 (smooth "10.0.0.1" "a")]).lines 0) =
    MachineRuntime.foreign pythonHosts ((run pythonHosts machines fresh meeting).fqdn 0)
      ((run pythonHosts machines fresh meeting).lines 0) :=
  others_untouched pythonHosts machines _ _ (List.forall_mem_cons.mpr ⟨nofun,List.forall_mem_cons.mpr ⟨nofun,
    fun _ member => (by cases member)⟩⟩)

theorem peers_resolved_meeting :
    (∀ e, .host e ∈ managed ((run pythonHosts machines fresh meeting).lines 0) →
      ∃ v ∈ (run pythonHosts machines fresh meeting).members, v ≠ 0 ∧
        (run pythonHosts machines fresh meeting).details v = some (PeerStateUnit.hostnameDetails (e.address,e.names))) ∧
    ∀ v ∈ (run pythonHosts machines fresh meeting).members, v ≠ 0 → ∀ host,
      (run pythonHosts machines fresh meeting).details v = some (PeerStateUnit.hostnameDetails host) →
        .host (MachineRuntime.entryOf host) ∈ (run pythonHosts machines fresh meeting).lines 0 ∨
          ∃ other, .host other ∈ (run pythonHosts machines fresh meeting).lines 0 ∧
            (MachineRuntime.entryOf host).Clashes other :=
  peers_resolved pythonHosts machines meeting (by decide +kernel)

end MysqlOperators.HostsFiles
