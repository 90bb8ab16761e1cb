import MysqlOperators.Clients

/-!
The search for the primary of the cluster-set among the addresses of the peers. An
address cannot be reached, or its server reports the status of the cluster-set as it
sees it, with a primary or without one.
-/
namespace MysqlOperators.Discovery
open MysqlOperators.Program MysqlOperators.Program.Prog MysqlOperators.External MysqlOperators.Clients

/-! ### The peers -/

/-- What each address answers. A status that is reported lists the cluster it calls
    the primary one. -/
structure Peers where
  status : String → Except Exn ClusterSetReport
  unreachable : ∀ address e, status address = .error e → e.isRuntimeError = true
  listed : ∀ address report, status address = .ok report → ∃ host, ClusterSetClient.primaryOf report = .ok host

namespace Peers
variable (peers : Peers)

def respond (_ : Unit) (c : Call) : Except Exn (Reply c) × Unit :=
  match c with
  | .clusterSetStatus (.host address) => (peers.status address,())
  | _ => (.ok default,())

def reachable (address : String) : Bool := (peers.status address).toBool

/-- The primary that an address reports. -/
def reported (address : String) : Option String :=
  match peers.status address with
  | .error _ => none
  | .ok report =>
    match ClusterSetClient.primaryOf report with
    | .error _ => none
    | .ok host => host

/-- What the search among a list of addresses ends with. -/
def found (addresses : List String) : Except Exn (Option String) :=
  (run peers.respond (findClusterPrimary addresses) ()).1

end Peers

/-- The search finds a primary when an address reports one, and only such a one. -/
def Complete (peers : Peers) (addresses : List String) : Prop :=
  ((∃ a ∈ addresses, (peers.reported a).isSome = true) → ∃ host, peers.found addresses = .ok (some host)) ∧
    (∀ host, peers.found addresses = .ok (some host) → ∃ a ∈ addresses, peers.reported a = some host) ∧
      ((∀ a ∈ addresses, peers.reported a = none) → peers.found addresses = .ok none)

/-! ### What the search finds -/

section
variable {peers : Peers} {addresses : List String}

/-- The first address that can be reached decides. -/
theorem found_eq (peers : Peers) (addresses : List String) :
    peers.found addresses = .ok ((addresses.find? peers.reachable).bind peers.reported) := by
  induction addresses with
  | nil => rfl
  | cons address rest ih =>
    have step : peers.found (address :: rest) =
        (run peers.respond ((ClusterSetClient.fetchPrimaryHost (.host address)).tryElse Exn.isRuntimeError
          (fun _ => findClusterPrimary rest) pure) ()).1 := rfl
    rw [step,run_tryElse,ClusterSetClient.fetchPrimaryHost,run_bind,run_perform,List.find?_cons]
    simp only [Peers.respond,Peers.reachable]
    cases status : peers.status address with
    | error e =>
      have suppressed := peers.unreachable address e status
      simp only [suppressed,if_true,Except.toBool]
      exact ih
    | ok report =>
      obtain ⟨host,primary⟩ := peers.listed address report status
      simp [run_ofExcept,primary,Except.toBool,Peers.reported,status]

/-- What the search finds has been reported. -/
theorem reported_of_found {host : String} (found : peers.found addresses = .ok (some host)) :
    ∃ a ∈ addresses, peers.reported a = some host := by
  rw [found_eq] at found
  obtain ⟨a,first,reports⟩ := Option.bind_eq_some_iff.mp (Except.ok.inj found)
  exact ⟨a,List.mem_of_find?_eq_some first,reports⟩

theorem found_none (silent : ∀ a ∈ addresses, peers.reported a = none) : peers.found addresses = .ok none := by
  rw [found_eq]
  cases first : addresses.find? peers.reachable with
  | none => rfl
  | some a => exact congrArg Except.ok (silent a (List.mem_of_find?_eq_some first))

end

/-- The search is complete if and only if the first address that can be reached
    reports a primary, or no address reports one. -/
theorem complete_iff (peers : Peers) (addresses : List String) : Complete peers addresses ↔
    (∃ a, addresses.find? peers.reachable = some a ∧ (peers.reported a).isSome = true) ∨
      ∀ a ∈ addresses, peers.reported a = none := by
  constructor
  · rintro ⟨finds,-,-⟩
    by_cases reports : ∃ a ∈ addresses, (peers.reported a).isSome = true
    · obtain ⟨host,found⟩ := finds reports
      rw [found_eq] at found
      obtain ⟨a,first,answers⟩ := Option.bind_eq_some_iff.mp (Except.ok.inj found)
      exact .inl ⟨a,first,by rw [answers]; rfl⟩
    · refine .inr fun a member => ?_
      by_contra some_
      exact reports ⟨a,member,Option.isSome_iff_ne_none.mpr some_⟩
  · intro condition
    refine ⟨?_,fun host found => reported_of_found found,found_none⟩
    rintro ⟨a,member,reports⟩
    rcases condition with ⟨b,first,answers⟩ | silent
    · obtain ⟨host,answer⟩ := Option.isSome_iff_exists.mp answers
      exact ⟨host,by rw [found_eq,first]; exact congrArg Except.ok answer⟩
    · rw [silent a member] at reports
      cases reports

/-! ### A primary that is missed -/

/-- The first peer sees its cluster without a primary, the second one with it. -/
def divided : Peers where
  status address :=
    .ok ⟨"cluster",[("cluster",⟨"OK",if address = "10.0.0.2" then some "10.0.0.2:3306" else none⟩)]⟩
  unreachable := nofun
  listed address report reports := by
    cases reports
    by_cases second : address = "10.0.0.2"
    · exact ⟨some "10.0.0.2",by simp only [second,if_true]; decide⟩
    · exact ⟨none,by simp [ClusterSetClient.primaryOf,second]⟩

/-- The search ends at the first peer. -/
theorem second_missed : ¬ Complete divided ["10.0.0.1","10.0.0.2"] := by
  intro complete
  obtain ⟨host,found⟩ := complete.1 ⟨"10.0.0.2",by decide,by decide⟩
  have missed : divided.found ["10.0.0.1","10.0.0.2"] = .ok none := by decide +kernel
  rw [missed] at found
  cases found

end MysqlOperators.Discovery
