import MysqlOperators.Quiet
import MysqlOperators.Lifecycle
import MysqlOperators.Scripted

/-!
The departure of a unit. The storage-detaching hook hands the primary over to the
unit that a peer databag marks as leader, and then removes its own instance through
the primary. The world is the cluster: its members and the host of its primary, and
whether a call to MySQL has failed.
-/
namespace MysqlOperators.Departure
open MysqlOperators.Program MysqlOperators.Program.Prog MysqlOperators.External MysqlOperators.Clients
open MysqlOperators.Workload MysqlOperators.Helpers MysqlOperators.Lifecycle MysqlOperators.Quiet
open MysqlOperators.Scripted

/-! ### The cluster -/

structure Member where
  label : String
  host : String
  info : InstanceInfo
deriving DecidableEq, Repr

/-- The peer relation and the name service as the unit sees them, and the cluster
    of its instance. -/
structure World where
  peers : Option PeersRelation
  dns : String → String
  members : List Member
  primary : String
  failed : Bool

namespace World

def hosts (w : World) : List String := w.members.map Member.host
def labels (w : World) : List String := w.members.map Member.label

/-- The address of a unit. -/
def address (w : World) (charm : Charm) (unit : UnitId) : String :=
  match charm.substrate with
  | .k8s => w.dns (getUnitLabel charm unit ++ "." ++ charm.appName ++ "-endpoints")
  | .vm => peerAddress charm w.peers relationPeers unit

/-- The address of the instance of the unit itself. -/
def own (w : World) (charm : Charm) : String := w.address charm charm.unit

/-- The server that a client talks to. -/
def at_ (w : World) (charm : Charm) : Target → String
  | .own => w.own charm
  | .host name => name

end World

def unreachable : Exn := ⟨.executionError,"The instance is not a member of the cluster"⟩

/-- MySQL knows the members and the primary of the cluster, which has quorum, and
    serves only its members. -/
def answer (charm : Charm) (w : World) : (c : Call) → Except Exn (Reply c) → Except Exn (Reply c)
  | .peersRelation, _ => .ok w.peers
  | .hostname address, .ok _ => .ok (w.dns address)
  | .instanceRole .own, .ok _ => .ok (some (if w.own charm = w.primary then .primary else .secondary))
  | .clusterStatus target, .ok report =>
    if w.hosts.contains (w.at_ charm target) then
      .ok { report with
        status := if report.status = .noQuorum then .ok else report.status
        primary := some (w.primary ++ ":3306")
        topology := w.members.map (fun m => (m.label,m.info)) }
    else .error unreachable
  | .clusterSetStatus target, .ok _ =>
    if w.hosts.contains (w.at_ charm target) then .ok ⟨"",[("",⟨"OK",some (w.primary ++ ":3306")⟩)]⟩
    else .error unreachable
  | .promoteInstance _ host, .ok _ => if w.hosts.contains host then .ok () else .error unreachable
  | .detachInstance _ host, .ok _ => if w.hosts.contains host then .ok () else .error unreachable
  | _, r => r

/-- The calls to MySQL of this hook. -/
def mysql : Call → Bool
  | .instanceRole _ | .clusterLabels _ | .clusterStatus _ | .clusterSetStatus _ | .promoteInstance _ _
  | .detachInstance _ _ | .executeSql _ _ => true
  | _ => false

/-- What a call that succeeds does to the cluster. -/
def done (w : World) : Call → World
  | .promoteInstance _ host => { w with primary := host }
  | .detachInstance _ host => { w with members := w.members.filter (fun m => m.host != host) }
  | _ => w

def effect (w : World) (c : Call) : Except Exn (Reply c) → Bool → World
  | .ok _, _ => done w c
  | .error _, _ => { w with failed := w.failed || mysql c }

def rules (charm : Charm) : Rules World Call Reply Exn := ⟨answer charm,effect⟩

/-- The primary is a member, the hosts have names without a colon, and the instance
    of the unit is listed by the label and the address of the unit. -/
structure WellFormed (charm : Charm) (w : World) : Prop where
  led : w.primary ∈ w.hosts
  named : ∀ host ∈ w.hosts, host ≠ "" ∧ ':' ∉ host.toList
  own : ∀ m ∈ w.members, m.label = getUnitLabel charm charm.unit ↔ m.host = w.own charm
  healthy : w.failed = false

/-- The unit is out of the topology, and the primary is among the members that remain. -/
def Departed (charm : Charm) (w : World) : Prop :=
  getUnitLabel charm charm.unit ∉ w.labels ∧ w.primary ∈ w.hosts

/-- The host that the hook promotes and asks for the primary. -/
def leaderHost (charm : Charm) (w : World) : String := w.address charm ((leaderAmong w.peers).getD charm.unit)

/-! ### Runs without a failed call -/

/-- The calls that change the cluster. -/
def moves : Call → Bool
  | .promoteInstance _ _ | .detachInstance _ _ => true
  | _ => false

theorem done_failed (w : World) (c : Call) : (done w c).failed = w.failed := by
  unfold done
  split <;> rfl

theorem done_still {c : Call} (still : moves c = false) (w : World) : done w c = w := by
  unfold done
  split
  · cases still
  · cases still
  · rfl

section
variable {charm : Charm} {script : Script Call Reply Exn} {α β : Type}

/-- A failed call is not forgotten. -/
theorem failed_stays (p : Hook α) (s : Scene World Call) (failed : s.world.failed = true) :
    (run (respond (rules charm) script) p s).2.world.failed = true := by
  refine run_frame (P := fun s => s.world.failed = true) (fun s c r happened _ before => ?_) (avoids_of_never p) s failed
  cases r with
  | ok a => exact (done_failed _ _).trans before
  | error e => simp [Scene.after,rules,effect,before]

/-- A run that ends without a failed call began without one. -/
theorem healthy_before {p : Hook α} {s s' : Scene World Call} {r : Except Exn α}
    (ends : run (respond (rules charm) script) p s = (r,s')) (healthy : s'.world.failed = false) :
    s.world.failed = false := by
  cases failed : s.world.failed with
  | false => rfl
  | true =>
    have stays := @failed_stays charm script α p s failed
    rw [ends,healthy] at stays
    cases stays

/-- From a world with the first property, a run that returns without a failed call
    ends with the second one. -/
def Clean (charm : Charm) (script : Script Call Reply Exn) (P : World → Prop) (p : Hook α) (T : α → World → Prop) : Prop :=
  Triple (rules charm) script (fun s => P s.world) p (fun a s => s.world.failed = false → T a s.world)

theorem clean_bind {P : World → Prop} {T : α → World → Prop} {V : β → World → Prop} {p : Hook α} {f : α → Hook β}
    (first : Clean charm script P p T) (rest : ∀ a, Clean charm script (T a) (f a) V) :
    Clean charm script P (p >>= f) V := by
  intro s b s' before ends healthy
  rw [run_bind] at ends
  rcases h : run (respond (rules charm) script) p s with ⟨e | a,s₁⟩ <;> rw [h] at ends
  · cases ends
  · exact rest a s₁ b s' (first s a s₁ before h (healthy_before (p := f a) ends healthy)) ends healthy

theorem clean_mono {P P' : World → Prop} {T T' : α → World → Prop} {p : Hook α} (clean : Clean charm script P p T)
    (stronger : ∀ w, P' w → P w) (weaker : ∀ a w, T a w → T' a w) : Clean charm script P' p T' :=
  triple_mono clean (fun _ before => stronger _ before) (fun _ _ after healthy => weaker _ _ (after healthy))

theorem clean_ret {a : α} {P : World → Prop} {T : α → World → Prop} (holds : ∀ w, P w → T a w) :
    Clean charm script P (ret a) T := triple_ret fun s before _ => holds s.world before

/-- A fact about a result can be used before the program that follows. -/
theorem clean_given {w : World} {Q : Prop} {T : α → World → Prop} {p : Hook α}
    (clean : Q → Clean charm script (· = w) p T) : Clean charm script (fun w' => w' = w ∧ Q) p T :=
  fun s a s' before => clean before.2 s a s' before.1

theorem clean_ite {b : Prop} [Decidable b] {P : World → Prop} {T : α → World → Prop} {p q : Hook α}
    (yes : b → Clean charm script P p T) (no : ¬ b → Clean charm script P q T) :
    Clean charm script P (if b then p else q) T := by
  split
  · exact yes ‹_›
  · exact no ‹_›

/-- A program that does not change the cluster keeps what holds of it. -/
theorem clean_frame {P : World → Prop} {p : Hook α} (avoids : Avoids (fun c => moves c = true) p) :
    Clean charm script P p (fun _ => P) := by
  intro s a s' before ends healthy
  have kept : (run (respond (rules charm) script) p s).2.world.failed = false →
      P (run (respond (rules charm) script) p s).2.world := by
    refine run_frame (P := fun s => s.world.failed = false → P s.world) (fun s c r happened other before => ?_) avoids s
      (fun _ => before)
    cases r with
    | ok a =>
      have same : done s.world c = s.world := done_still (by simpa using other) _
      simp only [Scene.after,rules,effect,same]
      exact before
    | error e =>
      simp only [Scene.after,rules,effect,Bool.or_eq_false_iff]
      rintro ⟨healthy,query⟩
      simpa [query] using before healthy
  rw [ends] at kept
  exact kept healthy

/-- A call whose answer the world knows. -/
theorem clean_ask {w : World} {c : Call} {R : Reply c → Prop} (answers : ∀ raw a, answer charm w c raw = .ok a → R a) :
    Clean charm script (· = w) (ask c) (fun a w' => w' = done w c ∧ R a) := by
  refine triple_perform fun s raw a happened before answered healthy => ?_
  subst before
  exact ⟨rfl,answers raw a answered⟩

/-- A call to MySQL, whatever follows its failure. -/
theorem clean_query {w : World} {c : Call} (query : mysql c = true) {R : Reply c → Prop}
    (answers : ∀ raw a, answer charm w c raw = .ok a → R a) {onRet : Reply c → Hook β} {onRaise : Exn → Hook β}
    {T : β → World → Prop} (rest : ∀ a, R a → Clean charm script (· = done w c) (onRet a) T) :
    Clean charm script (· = w) ((ask c).handle onRet onRaise) T := by
  intro s b s' before ends healthy
  subst before
  rw [run_handle,run_perform] at ends
  rcases h : respond (rules charm) script s c with ⟨e | a,s₁⟩ <;> rw [h] at ends
  · have failed : s₁.world.failed = true := by
      have answered := congrArg Prod.fst h
      have scene := congrArg Prod.snd h
      simp only [respond] at answered scene
      rw [← scene,answered]
      simp [rules,effect,query]
    rw [healthy_before (p := onRaise e) ends healthy] at failed
    cases failed
  · have answered := congrArg Prod.fst h
    have scene := congrArg Prod.snd h
    simp only [respond] at answered scene
    have after : s₁.world = done s.world c := by
      rw [← scene,answered]
      rfl
    exact rest a (answers _ a answered) s₁ b s' after ends healthy

theorem clean_finallyDo {P : World → Prop} {T : α → World → Prop} {p : Hook α} {last : Hook Unit}
    (body : Clean charm script P p T) (final : ∀ a, Clean charm script (T a) last (fun _ => T a)) :
    Clean charm script P (p.finallyDo last) T := by
  refine triple_finallyDo body fun a s u s' before ends healthy => ?_
  exact final a s u s' (before (healthy_before ends healthy)) ends healthy

end

/-! ### The functions of the hook -/

section
variable {charm : Charm} {script : Script Call Reply Exn} {w : World}

theorem clean_getUnitAddress (unit : UnitId) :
    Clean charm script (· = w) (getUnitAddress charm unit relationPeers)
      (fun host w' => w' = w ∧ host = w.address charm unit) := by
  unfold getUnitAddress World.address
  cases charm.substrate with
  | vm =>
    refine clean_bind (@clean_ask charm script w .peersRelation (fun peers => peers = w.peers) fun raw a answered => ?_)
      fun peers => ?_
    · cases answered
      rfl
    · cases peers with
      | none =>
        refine clean_ret ?_
        rintro w' ⟨same,seen⟩
        exact ⟨same,by simp [← seen,peerAddress]⟩
      | some peers =>
        refine clean_ite (fun self => clean_ret ?_) (fun other => ?_)
        · rintro w' ⟨same,seen⟩
          exact ⟨same,by simp [← seen,self,peerAddress,getUnitAddress_getD]⟩
        · cases found : peers.units.lookup unit with
          | none => exact triple_raise _
          | some data =>
            refine clean_ret ?_
            rintro w' ⟨same,seen⟩
            exact ⟨same,by simp [← seen,other,found,peerAddress,getUnitAddress_getD]⟩
  | k8s =>
    let address := getUnitLabel charm unit ++ "." ++ charm.appName ++ "-endpoints"
    refine clean_bind (@clean_ask charm script w (.hostname address) (fun found => found = w.dns address)
      fun raw a answered => ?_) fun found => clean_ite (fun _ => clean_ret ?_) (fun _ => triple_raise _)
    · cases raw <;> cases answered
      rfl
    · rintro w' ⟨same,seen⟩
      exact ⟨same,seen⟩

theorem answer_clusterStatus (at_ : Target) (raw : Except Exn ClusterReport) (report : ClusterReport)
    (answered : answer charm w (.clusterStatus at_) raw = .ok report) : report.status ≠ .noQuorum ∧
      report.primary = some (w.primary ++ ":3306") ∧ report.topology.map Prod.fst = w.labels ∧
      w.at_ charm at_ ∈ w.hosts := by
  cases raw with
  | error e => cases answered
  | ok report' =>
    simp only [answer] at answered
    split at answered
    · rename_i member
      cases answered
      refine ⟨?_,rfl,by simp [World.labels],List.contains_iff_mem.mp member⟩
      simp only
      split
      · simp
      · assumption
    · cases answered

theorem clean_fetchPrimaryHost (wf : WellFormed charm w) (at_ : Target) :
    Clean charm script (· = w) (ClusterClient.fetchPrimaryHost at_)
      (fun host w' => w' = w ∧ host = some w.primary ∧ w.at_ charm at_ ∈ w.hosts) := by
  refine @clean_query charm script _ w (.clusterStatus at_) rfl _ (answer_clusterStatus at_) _ _ _
    (fun report facts => ?_)
  obtain ⟨quorum,primary,-,member⟩ := facts
  rw [if_neg quorum,primary]
  refine clean_ret fun w' same => ⟨same,?_,member⟩
  rw [addressHost_port (wf.named _ wf.led).2]

theorem clean_fetchInstances (at_ : Target) :
    Clean charm script (· = w) (ClusterClient.fetchInstances at_)
      (fun instances w' => w' = w ∧ instances.map Prod.fst = w.labels) :=
  @clean_query charm script _ w (.clusterStatus at_) rfl _ (answer_clusterStatus at_) _ _ _
    (fun _ facts => clean_ret fun _ same => ⟨same,facts.2.2.1⟩)

/-- The cluster-set primary, asked of the leader. -/
theorem clean_findClusterPrimary (wf : WellFormed charm w) (host : String) :
    Clean charm script (· = w) (findClusterPrimary [host])
      (fun primary w' => w' = w ∧ primary = some w.primary ∧ host ∈ w.hosts) := by
  simp only [findClusterPrimary,ClusterSetClient.fetchPrimaryHost,tryElse,bind_eq,handle_handle]
  refine @clean_query charm script _ w (.clusterSetStatus (.host host)) rfl (fun report : ClusterSetReport =>
    ClusterSetClient.primaryOf report = .ok (some w.primary) ∧ host ∈ w.hosts) (fun raw report answered => ?_) _ _ _
    (fun report facts => ?_)
  · cases raw with
    | error e => cases answered
    | ok report' =>
      simp only [answer] at answered
      split at answered
      · rename_i member
        cases answered
        refine ⟨?_,List.contains_iff_mem.mp member⟩
        simp [ClusterSetClient.primaryOf,addressHost_port (wf.named _ wf.led).2]
      · cases answered
  · rw [facts.1]
    exact clean_ret fun w' same => ⟨same,rfl,facts.2⟩

theorem clean_findLeaderUnit :
    Clean charm script (· = w) findLeaderUnit (fun unit w' => w' = w ∧ unit = leaderAmong w.peers) := by
  refine clean_bind (clean_ask (R := fun peers => peers = w.peers) fun raw peers answered => ?_) fun peers => ?_
  · cases answered
    rfl
  · refine clean_ret ?_
    rintro w' ⟨same,seen⟩
    exact ⟨same,by rw [seen]⟩

theorem clean_locking (at_ : Target) (label task : String) {body : Hook Unit} {T : World → Prop}
    (inside : Clean charm script (· = w) body (fun _ => T)) :
    Clean charm script (· = w) (ClusterClient.locking at_ label task body) (fun _ => T) := by
  refine clean_bind (clean_frame (avoids_retry ?_ _)) fun _ => clean_finallyDo inside fun _ => clean_frame ?_
  · exact avoids_bind (avoids_ask (by simp [moves])) fun _ => avoids_ite _ (fun _ => trivial) (fun _ => trivial)
  · exact avoids_bind (avoids_ask (by simp [moves])) fun _ => avoids_ite _ (fun _ => trivial) (fun _ => trivial)

/-- Once the instance of the unit is out, so is its label. -/
theorem departed_detached (wf : WellFormed charm w) (other : w.own charm ≠ w.primary) (at_ : Target) :
    Departed charm (done w (.detachInstance at_ (w.own charm))) := by
  constructor
  · intro listed
    obtain ⟨m,member,label⟩ := List.mem_map.mp listed
    obtain ⟨member,kept⟩ := List.mem_filter.mp member
    have host := (wf.own m member).mp label
    simp [host] at kept
  · obtain ⟨m,member,host⟩ := List.mem_map.mp wf.led
    refine List.mem_map.mpr ⟨m,List.mem_filter.mpr ⟨member,?_⟩,host⟩
    simpa [host] using Ne.symm other

/-- The instance leaves through the primary unless it is the primary. -/
theorem clean_removeInstance (wf : WellFormed charm w) (host : String) :
    Clean charm script (· = w)
      (LifecycleManager.removeInstance (w.own charm) (getUnitLabel charm charm.unit) [host])
      (fun _ w' => if w.own charm = w.primary then w' = w else Departed charm w') := by
  refine clean_bind (clean_findClusterPrimary wf host) fun primary => clean_given fun found => ?_
  have named : nonEmpty primary = some w.primary := by
    rw [found.1]
    have present := (wf.named _ wf.led).1
    unfold nonEmpty
    split
    · rename_i same
      exact absurd (Option.some.inj same) present
    · rfl
  rw [named]
  refine clean_bind (clean_fetchInstances _) fun instances => clean_given fun topology => clean_ite (fun listed => ?_)
    fun unlisted => ?_
  · refine clean_bind (clean_fetchPrimaryHost wf _) fun current => clean_given fun known => ?_
    rw [known.1]
    by_cases self : w.own charm = w.primary
    · rw [if_pos (by rw [self])]
      exact clean_ret fun w' same => by rw [if_pos self]; exact same
    · rw [if_neg (by simpa using Ne.symm self)]
      refine clean_locking _ _ _ (clean_mono (clean_ask (R := fun _ => True) fun _ _ _ => trivial) (fun _ same => same) ?_)
      rintro _ w' ⟨same,-⟩
      rw [if_neg self,same]
      exact departed_detached wf self _
  · refine clean_ret fun w' same => ?_
    have absent : getUnitLabel charm charm.unit ∉ w.labels := by
      rw [← topology]
      simpa using unlisted
    have other : w.own charm ≠ w.primary := by
      intro self
      obtain ⟨m,member,host⟩ := List.mem_map.mp wf.led
      exact absent (List.mem_map.mpr ⟨m,member,(wf.own m member).mpr (host.trans self.symm)⟩)
    rw [if_neg other,same]
    exact ⟨absent,wf.led⟩

/-- What the hook does with an instance that is the primary. -/
theorem clean_handover (wf : WellFormed charm w) (host : String) {T : Unit → World → Prop} {handler : Exn → Hook Unit}
    {orElse : Unit → Hook Unit} (kept : w.own charm ≠ w.primary ∨ host = w.own charm →
      Clean charm script (· = w) (orElse ()) T)
    (switched : w.own charm = w.primary → host ≠ w.own charm → host ∈ w.hosts →
      Clean charm script (· = { w with primary := host }) (orElse ()) T) :
    Clean charm script (· = w) ((do
      if ← LifecycleManager.isClusterPrimary then LifecycleManager.promoteInstance host else pure () :
        Hook Unit).tryElse Exn.isRuntimeError handler orElse) T := by
  simp only [LifecycleManager.isClusterPrimary,InstanceClient.fetchRole,tryElse,bind_eq,handle_handle]
  refine @clean_query charm script _ w (.instanceRole .own) rfl (fun role =>
    role = some (if w.own charm = w.primary then .primary else .secondary)) (fun raw role answered => ?_) _ _ _
    (fun role known => ?_)
  · cases raw <;> cases answered
    rfl
  · subst known
    by_cases self : w.own charm = w.primary
    · simp only [if_pos self]
      change Clean charm script (· = w) ((Clients.promoteInstance host false).handle orElse _) T
      simp only [Clients.promoteInstance,ClusterClient.fetchPrimaryHost,tryElse,bind_eq,handle_handle]
      refine @clean_query charm script _ w (.clusterStatus .own) rfl _ (answer_clusterStatus .own) _ _ _
        (fun report facts => ?_)
      rw [if_neg facts.1,facts.2.1]
      change Clean charm script (· = w) ((if some (addressHost (w.primary ++ ":3306")) = some host then pure ()
        else ask (.promoteInstance .own host)).handle orElse _) T
      rw [addressHost_port (wf.named _ wf.led).2]
      by_cases same : host = w.own charm
      · rw [if_pos (by rw [same,self])]
        exact kept (.inr same)
      · rw [if_neg (by rw [← self]; simpa using Ne.symm same)]
        refine @clean_query charm script _ w (.promoteInstance .own host) rfl (fun _ => host ∈ w.hosts)
          (fun raw a answered => ?_) _ _ _ (fun _ member => switched self same member)
        cases raw with
        | error e => cases answered
        | ok u =>
          simp only [answer] at answered
          split at answered
          · rename_i member
            exact List.contains_iff_mem.mp member
          · cases answered
    · simp only [if_neg self]
      exact kept (.inl self)

/-- What the hook does once the unit is initialised. -/
theorem clean_leave (wf : WellFormed charm w) (host : String) :
    Clean charm script (· = w) ((do
      if ← LifecycleManager.isClusterPrimary then LifecycleManager.promoteInstance host else pure () :
        Hook Unit).tryElse Exn.isRuntimeError (fun _ => pure ()) fun _ => do
      let own ← getUnitAddress charm charm.unit relationPeers
      LifecycleManager.removeInstance own (getUnitLabel charm charm.unit) [host])
      (fun _ w' => Departed charm w' ↔ w.own charm ≠ w.primary ∨ host ≠ w.own charm) := by
  refine clean_handover wf host (fun stays => ?_) (fun self other member => ?_)
  · refine clean_bind (clean_getUnitAddress _) fun own => clean_given fun known => ?_
    subst known
    refine clean_mono (clean_removeInstance wf host) (fun _ same => same) fun _ w' after => ?_
    by_cases self : w.own charm = w.primary
    · rw [if_pos self] at after
      subst after
      have same : host = w'.own charm := stays.resolve_left (not_not_intro self)
      have here : ¬ Departed charm w' := by
        obtain ⟨m,member,host⟩ := List.mem_map.mp wf.led
        exact fun left => left.1 (List.mem_map.mpr ⟨m,member,(wf.own m member).mpr (host.trans self.symm)⟩)
      simp [here,self,same]
    · rw [if_neg self] at after
      exact iff_of_true after (.inl self)
  · have wf' : WellFormed charm { w with primary := host } := ⟨member,wf.named,wf.own,wf.healthy⟩
    refine clean_bind (clean_getUnitAddress _) fun own => clean_given fun known => ?_
    subst known
    refine clean_mono (clean_removeInstance wf' host) (fun _ same => same) fun _ w' after => ?_
    have moved : { w with primary := host }.own charm ≠ { w with primary := host }.primary := Ne.symm other
    rw [if_neg moved] at after
    exact iff_of_true after (.inr other)

/-- The hook removes the unit exactly when its instance is not the primary, or the
    leader that it finds has another host. -/
theorem departs_iff (wf : WellFormed charm w) (ready : (play (rules charm) script (initialized charm) w).1 = .ok true)
    {s : Scene World Call} (returns : play (rules charm) script (onStorageDetaching charm) w = (.ok (),s))
    (succeeded : s.world.failed = false) :
    Departed charm s.world ↔ w.own charm ≠ w.primary ∨ leaderHost charm w ≠ w.own charm := by
  rw [play,onStorageDetaching,run_bind] at returns
  rcases h : run (respond (rules charm) script) (initialized charm) ⟨w,[]⟩ with ⟨e | b,s₁⟩
  · rw [play,h] at ready
    cases ready
  · rw [play,h] at ready
    cases ready
    rw [h] at returns
    have still : ∀ c, moves c = true → Loud c := by
      intro c moved
      cases c <;> first | rfl | cases moved
    have begun : s₁.world = w := by
      refine clean_frame (P := (· = w)) (avoids_mono still (quiet_initialized charm)) ⟨w,[]⟩ true s₁ rfl h ?_
      exact healthy_before returns succeeded
    have left (p : Hook Unit) (clean : Clean charm script (· = w) p (fun _ w' => Departed charm w' ↔
        w.own charm ≠ w.primary ∨ leaderHost charm w ≠ w.own charm))
        (ends : run (respond (rules charm) script) p s₁ = (.ok (),s)) := clean s₁ () s begun ends succeeded
    refine left _ (clean_ite (fun _ => ?_) (fun never => absurd rfl never)) returns
    refine clean_bind clean_findLeaderUnit fun unit => clean_given fun found => ?_
    refine clean_bind (clean_getUnitAddress _) fun host => clean_given fun known => ?_
    have which : host = leaderHost charm w := by rw [known,found,leaderHost]
    exact which ▸ clean_leave wf host

end

/-! ### A unit that holds the primary -/

def departing : Charm := ⟨.vm,"mysql",0,"cluster","10.0.0.1"⟩

/-- Two members; the unit is the primary, and only its own databag carries the
    leader flag. -/
def pair : World where
  peers := some ⟨[(1,[("database-peers-address","10.0.0.2")])],[("database-peers-address","10.0.0.1"),("leader","true")],0⟩
  dns := id
  members := [⟨"mysql-0","10.0.0.1",⟨.online,"R/W",none,none⟩⟩,⟨"mysql-1","10.0.0.2",⟨.online,"R/O",none,none⟩⟩]
  primary := "10.0.0.1"
  failed := false

/-- Every call succeeds. -/
def smooth : Script Call Reply Exn where
  reply c _ := match c with
    | .snapPresent | .snapServiceActive => .ok true
    | .clusterLabels _ => .ok ["cluster"]
    | .appData _ => .ok (some "cluster")
    | .executeSql _ (.lockAcquire _ label) => .ok [label]
    | _ => .ok default
  takesEffect _ _ := false

theorem pair_wellFormed : WellFormed departing pair :=
  ⟨by decide +kernel,by decide +kernel,by decide +kernel,rfl⟩

theorem departs_iff_pair : WellFormed departing pair ∧
    (play (rules departing) smooth (initialized departing) pair).1 = .ok true ∧
    (Departed departing (play (rules departing) smooth (onStorageDetaching departing) pair).2.world ↔
      pair.own departing ≠ pair.primary ∨ leaderHost departing pair ≠ pair.own departing) := by
  have ready : (play (rules departing) smooth (initialized departing) pair).1 = .ok true := by decide +kernel
  have returns : (play (rules departing) smooth (onStorageDetaching departing) pair).1 = .ok () := by decide +kernel
  exact ⟨pair_wellFormed,ready,departs_iff pair_wellFormed ready (Prod.ext returns rfl) (by decide +kernel)⟩

/-- The unit that holds the primary stays in the topology although every call succeeds. -/
theorem primary_stays :
    (play (rules departing) smooth (initialized departing) pair).1 = .ok true ∧
    (play (rules departing) smooth (onStorageDetaching departing) pair).1 = .ok () ∧
    (play (rules departing) smooth (onStorageDetaching departing) pair).2.world.failed = false ∧
    ¬ Departed departing (play (rules departing) smooth (onStorageDetaching departing) pair).2.world := by
  have stays : getUnitLabel departing departing.unit ∈
      (play (rules departing) smooth (onStorageDetaching departing) pair).2.world.labels := by decide +kernel
  exact ⟨by decide +kernel,by decide +kernel,by decide +kernel,fun left => left.1 stays⟩

end MysqlOperators.Departure
