import MysqlOperators.Quiet
import MysqlOperators.Scripted
import Mathlib.Logic.Function.Basic

/-!
The recreate-cluster action and the name of the cluster-set. The name that the action
records is the value of the option; the cluster-set gets the one that the databag had
when the charm was built.
-/
namespace MysqlOperators.DomainName
open MysqlOperators.Program MysqlOperators.Program.Prog MysqlOperators.External MysqlOperators.Clients
open MysqlOperators.Helpers MysqlOperators.Quiet MysqlOperators.Scripted
open Function (update)

/-! ### The configuration -/

def nameChar (c : Char) : Bool := c.isAlphanum || c == '-' || c == '_' || c == '.'

/-- Whether `cluster_name_validator` accepts a text. A dollar sign also matches before a
    line end at the end of the text. -/
def clusterNameValidator (value : String) : Bool :=
  decide (value.length ≤ 63) && (value.toList.head?.any Char.isAlpha) &&
    (value.toList.dropWhile nameChar == [] || value.toList.dropWhile nameChar == ['\n'])

/-- An option that is not set is not validated. -/
def accepted (option : Option String) : Bool := option.all clusterNameValidator

/-! ### The action -/

namespace PeerStateApp

def clusterSetNameKey : String := "cluster-set-domain-name"
def clusterRemovedKey : String := "removed-from-cluster-set"

/-- `str(name)`. -/
def nameText : Option String → String
  | none => "None"
  | some name => name

def setClusterSetName (name : Option String) : Hook Unit := ask (.setAppData clusterSetNameKey (nameText name))

def deleteClusterRemovedFlag : Hook Unit := ask (.deleteAppData clusterRemovedKey)

end PeerStateApp

def ClusterManager.recreateCluster (label : String) (clusterSetName : Option String) : Hook Unit := do
  PeerStateApp.setClusterSetName clusterSetName
  PeerStateApp.deleteClusterRemovedFlag
  Clients.recreateCluster label

/-- What the action does once the option is read. -/
def recreating (charm : Charm) (clusterSetName : Option String) : Hook Unit :=
  (do ClusterManager.recreateCluster (getUnitLabel charm charm.unit) clusterSetName
      setUnitStatus (← buildUnitStatus)
      setAppStatus (← buildAppStatus) : Hook Unit).tryElse Exn.isRuntimeError
    (fun e => ask (.fail ("Failed to recreate cluster: " ++ e.text)))
    (fun _ => pure ())

def onRecreateCluster (charm : Charm) : Hook Unit := do
  if ← isLeader then
    match ← ask .peersRelation with
    | none => ask (.fail "The action can only be run when the peer relation exists")
    | some _ => do
      let clusterSetName ← ask (.configValue "cluster_set_name")
      recreating charm clusterSetName
  else ask (.fail "The action can only be run on the leader unit")

/-! ### The databag and the cluster-set -/

/-- The databag with the writes of the action, the option, the name that the client was
    built with, and the one that the cluster-set has been created with. -/
structure World where
  bag : String → Option String
  option : Option String
  built : String
  created : Option String

namespace World

/-- The configuration is validated whenever it is read. -/
def answer (w : World) : (c : Call) → Except Exn (Reply c) → Except Exn (Reply c)
  | .configValue _, .ok _ =>
    if accepted w.option then .ok w.option else .error ⟨.valueError,"cluster / cluster-set name is not valid"⟩
  | _, r => r

def effect (w : World) : (c : Call) → Except Exn (Reply c) → Bool → World
  | .setAppData key text, .ok _, _ => { w with bag := update w.bag key (if text = "" then none else some text) }
  | .deleteAppData key, .ok _, _ => { w with bag := update w.bag key none }
  | .createClusterSet _, .ok _, _ => { w with created := some w.built }
  | .createClusterSet _, .error _, true => { w with created := some w.built }
  | _, _, _ => w

/-- The charm is built: the client gets `cluster_set_name`. -/
def build (bag : String → Option String) (option : Option String) : World :=
  ⟨bag,option,(nonEmpty (bag PeerStateApp.clusterSetNameKey)).getD "",none⟩

end World

def rules : Rules World Call Reply Exn := ⟨World.answer,World.effect⟩

def perform (charm : Charm) (bag : String → Option String) (option : Option String) (script : Script Call Reply Exn) :
    Except Exn Unit × Scene World Call := play rules script (onRecreateCluster charm) (World.build bag option)

/-- The databag after the action: an exception discards what was written, a failure that
    the action reports does not. -/
def after (bag : String → Option String) : Except Exn Unit × Scene World Call → String → Option String
  | (.ok _,s) => s.world.bag
  | (.error _,_) => bag

def Failed (ended : Except Exn Unit × Scene World Call) : Prop :=
  ended.1 ≠ .ok () ∨ ∃ message, .fail message ∈ ended.2.log

/-- A successful action leaves a valid name, the one of the cluster-set; one that fails
    before the cluster-set is there leaves the previous name. -/
structure RecordsTrue (bag : String → Option String) (ended : Except Exn Unit × Scene World Call) : Prop where
  succeeds : ¬ Failed ended → ∃ name, after bag ended PeerStateApp.clusterSetNameKey = some name ∧
    clusterNameValidator name = true ∧ ended.2.world.created = some name
  fails : Failed ended → ended.2.world.created = none →
    after bag ended PeerStateApp.clusterSetNameKey = bag PeerStateApp.clusterSetNameKey

section
variable (script : Script Call Reply Exn) (charm : Charm) (bag : String → Option String) (option : Option String)
variable {w : World}

/-! ### Until the option is read -/

/-- The option has been read. -/
def reached : Scene World Call := ⟨World.build bag option,[.isLeader,.peersRelation,.configValue "cluster_set_name"]⟩

/-- The leader reads the option, which is valid. -/
theorem perform_reads {peers : PeersRelation} {value : Option String} (leads : script.reply .isLeader 0 = .ok true)
    (related : script.reply .peersRelation 0 = .ok (some peers))
    (read : script.reply (.configValue "cluster_set_name") 0 = .ok value) (valid : accepted option = true) :
    perform charm bag option script = run (respond rules script) (recreating charm option)
      (reached bag option) := by
  have configured : accepted (World.build bag option).option = true := valid
  simp [perform,play,onRecreateCluster,run_bind,respond,rules,World.answer,World.effect,isLeader,leads,related,read,
    configured]
  rfl

/-- The action fails before it has done anything, or goes on with the option. -/
theorem perform_cases :
    (∃ r log, Failed (r,⟨World.build bag option,log⟩) ∧ perform charm bag option script = (r,⟨World.build bag option,log⟩)) ∨
    accepted option = true ∧ perform charm bag option script =
      run (respond rules script) (recreating charm option)
        (reached bag option) := by
  rcases leads : script.reply .isLeader 0 with e | (_ | _)
  · refine .inl ⟨.error e,[.isLeader],.inl (by simp),?_⟩
    simp [perform,play,onRecreateCluster,run_bind,respond,rules,World.answer,World.effect,isLeader,leads]
  · refine .inl ⟨script.reply (.fail "The action can only be run on the leader unit") 0,
      [.isLeader,.fail "The action can only be run on the leader unit"],.inr ⟨_,List.mem_cons_of_mem _ List.mem_cons_self⟩,?_⟩
    simp [perform,play,onRecreateCluster,run_bind,respond,rules,World.answer,World.effect,isLeader,leads]
  rcases related : script.reply .peersRelation 0 with e | (_ | peers)
  · refine .inl ⟨.error e,[.isLeader,.peersRelation],.inl (by simp),?_⟩
    simp [perform,play,onRecreateCluster,run_bind,respond,rules,World.answer,World.effect,isLeader,leads,related]
  · refine .inl ⟨script.reply (.fail "The action can only be run when the peer relation exists") 0,
      [.isLeader,.peersRelation,.fail "The action can only be run when the peer relation exists"],
      .inr ⟨_,List.mem_cons_of_mem _ (List.mem_cons_of_mem _ List.mem_cons_self)⟩,?_⟩
    simp [perform,play,onRecreateCluster,run_bind,respond,rules,World.answer,World.effect,isLeader,leads,related]
  rcases read : script.reply (.configValue "cluster_set_name") 0 with e | _
  · refine .inl ⟨.error e,[.isLeader,.peersRelation,.configValue "cluster_set_name"],.inl (by simp),?_⟩
    simp [perform,play,onRecreateCluster,run_bind,respond,rules,World.answer,World.effect,isLeader,leads,related,read]
  by_cases valid : accepted option = true
  · exact .inr ⟨valid,perform_reads script charm bag option leads related read valid⟩
  · refine .inl ⟨.error ⟨.valueError,"cluster / cluster-set name is not valid"⟩,
      [.isLeader,.peersRelation,.configValue "cluster_set_name"],.inl (by simp),?_⟩
    have refused : ¬ accepted (World.build bag option).option = true := valid
    simp [perform,play,onRecreateCluster,run_bind,respond,rules,World.answer,World.effect,isLeader,leads,related,read,
      refused]

/-! ### What recreating does -/

/-- The calls that write another name. -/
def renames (option : Option String) (c : Call) : Prop :=
  (∃ text, c = .setAppData PeerStateApp.clusterSetNameKey text ∧ text ≠ PeerStateApp.nameText option) ∨
    c = .deleteAppData PeerStateApp.clusterSetNameKey

/-- The statuses at the end. -/
def reporting : Hook Unit := do
  setUnitStatus (← buildUnitStatus)
  setAppStatus (← buildAppStatus)

theorem quiet_reporting : Avoids Loud reporting :=
  avoids_bind quiet_buildUnitStatus fun _ => avoids_bind (quiet_setUnitStatus _) fun _ =>
    avoids_bind quiet_buildAppStatus fun _ => quiet_setAppStatus _

theorem recreating_renames : Avoids (renames option) (recreating charm option) := by
  have loud : ∀ c, renames option c → Loud c := by
    rintro _ (⟨_,rfl,_⟩ | rfl) <;> rfl
  refine avoids_tryElse (avoids_bind ?_ fun _ => avoids_mono loud quiet_reporting) (fun _ => avoids_ask (by simp [renames]))
    fun _ => trivial
  refine avoids_bind (avoids_ask (by simp [renames])) fun _ => avoids_bind (avoids_ask ?_) fun _ => ?_
  · simp [renames,PeerStateApp.clusterRemovedKey,PeerStateApp.clusterSetNameKey]
  · refine avoids_bind (avoids_bind (avoids_ask (by simp [renames])) fun _ => trivial) fun _ => ?_
    refine avoids_bind ?_ fun _ => avoids_bind (avoids_ask (by simp [renames])) fun _ => avoids_ask (by simp [renames])
    exact avoids_bind (avoids_ask (by simp [renames])) fun _ => avoids_ask (by simp [renames])

theorem run_recreating_bag (w : World) (log : List Call)
    (recorded : w.bag PeerStateApp.clusterSetNameKey = some (PeerStateApp.nameText option))
    (named : PeerStateApp.nameText option ≠ "") :
    (run (respond rules script) (recreating charm option) ⟨w,log⟩).2.world.bag PeerStateApp.clusterSetNameKey =
      some (PeerStateApp.nameText option) := by
  refine run_frame (P := fun s => s.world.bag PeerStateApp.clusterSetNameKey = some (PeerStateApp.nameText option))
    (fun s c r happened other before => ?_) (recreating_renames charm option) ⟨w,log⟩ recorded
  show (World.effect s.world c r happened).bag PeerStateApp.clusterSetNameKey = _
  unfold World.effect
  split
  · rename_i _ key text _
    by_cases same : PeerStateApp.clusterSetNameKey = key
    · subst same
      have kept : text = PeerStateApp.nameText option := by
        by_contra different
        exact other (.inl ⟨text,rfl,different⟩)
      simp [kept,named]
    · simpa [Function.update_of_ne same] using before
  · rename_i _ key _
    by_cases same : PeerStateApp.clusterSetNameKey = key
    · exact absurd (.inr (by rw [same])) other
    · simpa [Function.update_of_ne same] using before
  all_goals exact before

/-- The calls that create a cluster-set. -/
def creates : Call → Bool
  | .createClusterSet _ => true
  | _ => false

theorem effect_built (w : World) (c : Call) (r : Except Exn (Reply c)) (happened : Bool) :
    (w.effect c r happened).built = w.built := by
  unfold World.effect
  split <;> rfl

theorem effect_created {c : Call} (other : ¬ creates c = true) (w : World) (r : Except Exn (Reply c)) (happened : Bool) :
    (w.effect c r happened).created = w.created := by
  unfold World.effect
  split <;> first | rfl | exact absurd rfl other

/-- An action that ends without a failure has created the cluster-set. -/
theorem recreating_creates : Triple rules script (fun s => s.world.built = w.built) (recreating charm option)
    (fun _ s => (∃ message, .fail message ∈ s.log) ∨ s.world.created = some w.built) := by
  have body : Triple rules script (fun s => s.world.built = w.built)
      (ClusterManager.recreateCluster (getUnitLabel charm charm.unit) option >>= fun _ => reporting)
      (fun _ s => s.world.created = some w.built) := by
    have before {α : Type} {p : Hook α} (avoids : Avoids (fun c => creates c = true) p) :
        Triple rules script (fun s => s.world.built = w.built) p (fun _ s => s.world.built = w.built) :=
      triple_frame (fun s c r happened _ built => (effect_built s.world c r happened).trans built) avoids
    have later {α : Type} {p : Hook α} (avoids : Avoids (fun c => creates c = true) p) :
        Triple rules script (fun s => s.world.created = some w.built) p (fun _ s => s.world.created = some w.built) :=
      triple_frame (fun s c r happened other created => (effect_created other s.world r happened).trans created) avoids
    have creation : Triple rules script (fun s => s.world.built = w.built) ClusterSetClient.create
        (fun _ s => s.world.created = some w.built) := by
      refine triple_perform fun s raw a happened built _ => ?_
      show some s.world.built = _
      rw [built]
    have report : Avoids (fun c => creates c = true) reporting :=
      avoids_mono (fun c creating => by unfold creates at creating; split at creating <;> first | rfl | cases creating)
        quiet_reporting
    refine triple_bind ?_ fun _ => later report
    refine triple_bind (before (avoids_ask (by simp [creates]))) fun _ => ?_
    refine triple_bind (before (avoids_ask (by simp [creates]))) fun _ => ?_
    refine triple_bind (before (avoids_bind (avoids_ask (by simp [creates])) fun _ => trivial)) fun _ => ?_
    refine triple_bind (before (avoids_bind (avoids_ask (by simp [creates])) fun _ => avoids_ask (by simp [creates])))
      fun _ => ?_
    exact triple_bind creation fun _ => later (avoids_ask (by simp [creates]))
  intro s a s' before ends
  change run (respond rules script) ((ClusterManager.recreateCluster (getUnitLabel charm charm.unit) option >>=
    fun _ => reporting).tryElse Exn.isRuntimeError _ _) s = _ at ends
  rw [run_tryElse] at ends
  rcases ran : run (respond rules script) (ClusterManager.recreateCluster (getUnitLabel charm charm.unit) option >>=
    fun _ => reporting) s with ⟨e | done,s₁⟩ <;> rw [ran] at ends
  · simp only at ends
    split at ends
    · have told := congrArg (fun ended => ended.2.log) ends
      simp only [run_perform,respond] at told
      refine .inl ⟨"Failed to recreate cluster: " ++ e.text,?_⟩
      rw [← told]
      exact List.mem_append_right _ (List.mem_singleton.mpr rfl)
    · cases ends
  · cases ends
    exact .inr (body s () s' before ran)

theorem recreating_unfailed : Avoids (fun c => ∃ message, c = .fail message)
    (ClusterManager.recreateCluster (getUnitLabel charm charm.unit) option >>= fun _ => reporting) := by
  refine avoids_bind ?_ fun _ => avoids_mono (fun c ⟨_,same⟩ => by rw [same]; rfl) quiet_reporting
  refine avoids_bind (avoids_ask (by simp)) fun _ => avoids_bind (avoids_ask (by simp)) fun _ => ?_
  refine avoids_bind (avoids_bind (avoids_ask (by simp)) fun _ => trivial) fun _ => ?_
  refine avoids_bind (avoids_bind (avoids_ask (by simp)) fun _ => avoids_ask (by simp)) fun _ => ?_
  exact avoids_bind (avoids_ask (by simp)) fun _ => avoids_ask (by simp)

end

/-! ### The recorded name -/

theorem accepted_nameText {option : Option String} (valid : accepted option = true) :
    clusterNameValidator (PeerStateApp.nameText option) = true := by
  cases option with
  | none => decide
  | some name => exact valid

theorem validator_ne_empty {name : String} (valid : clusterNameValidator name = true) : name ≠ "" := by
  rintro rfl
  exact absurd valid (by decide)

/-- The unit leads, and every call succeeds. -/
def leading : Script Call Reply Exn where
  reply c _ := match c with
    | .isLeader => .ok true
    | .peersRelation => .ok (some ⟨[],[],0⟩)
    | _ => .ok default
  takesEffect _ _ := false

theorem perform_leading (charm : Charm) (bag : String → Option String) {option : Option String}
    (valid : accepted option = true) : ¬ Failed (perform charm bag option leading) ∧
      after bag (perform charm bag option leading) PeerStateApp.clusterSetNameKey = some (PeerStateApp.nameText option) ∧
      (perform charm bag option leading).2.world.created =
        some ((nonEmpty (bag PeerStateApp.clusterSetNameKey)).getD "") := by
  rw [perform_reads leading charm bag option rfl rfl rfl valid]
  have named := validator_ne_empty (accepted_nameText valid)
  have returned : (run (respond rules leading) (recreating charm option) (reached bag option)).1 = .ok () := rfl
  have unfailed : ∀ message, .fail message ∉
      (run (respond rules leading) (recreating charm option) (reached bag option)).2.log := by
    intro message failed
    have earlier := (run_log_avoids rules leading (recreating_unfailed charm option) ⟨message,rfl⟩ _).mp failed
    simp [reached] at earlier
  refine ⟨fun failed => failed.elim (absurd returned) fun ⟨message,member⟩ => unfailed message member,?_,rfl⟩
  show update (update bag PeerStateApp.clusterSetNameKey
    (if PeerStateApp.nameText option = "" then none else some (PeerStateApp.nameText option)))
      PeerStateApp.clusterRemovedKey none PeerStateApp.clusterSetNameKey = _
  rw [Function.update_of_ne (by decide),Function.update_self,if_neg named]

/-- The name that the action leaves is always true exactly when a valid option is the
    name that the databag has already. -/
theorem recordsTrue_iff (charm : Charm) (bag : String → Option String) (option : Option String) :
    (∀ script, RecordsTrue bag (perform charm bag option script)) ↔
      (accepted option = true → bag PeerStateApp.clusterSetNameKey = some (PeerStateApp.nameText option)) := by
  constructor
  · intro records valid
    obtain ⟨unfailed,recorded,created⟩ := perform_leading charm bag valid
    obtain ⟨name,left,_,same⟩ := (records leading).succeeds unfailed
    have named := validator_ne_empty (accepted_nameText valid)
    rw [recorded,Option.some.injEq] at left
    rw [created,Option.some.injEq,← left] at same
    cases there : nonEmpty (bag PeerStateApp.clusterSetNameKey) with
    | none =>
      rw [there] at same
      exact absurd same.symm named
    | some built =>
      have entry : bag PeerStateApp.clusterSetNameKey = some built := (eq_nonEmpty (by simp [there])).trans there
      rw [there] at same
      exact entry.trans (congrArg some same)
  · intro recorded script
    rcases perform_cases script charm bag option with ⟨r,log,failed,ran⟩ | ⟨valid,ran⟩
    · rw [ran]
      refine ⟨fun unfailed => absurd failed unfailed,fun _ _ => ?_⟩
      cases r <;> rfl
    · have there := recorded valid
      have named := validator_ne_empty (accepted_nameText valid)
      have left : after bag (perform charm bag option script) PeerStateApp.clusterSetNameKey =
          some (PeerStateApp.nameText option) := by
        rw [ran]
        have kept : (run (respond rules script) (recreating charm option) (reached bag option)).2.world.bag
            PeerStateApp.clusterSetNameKey = some (PeerStateApp.nameText option) :=
          run_recreating_bag script charm option _ _ there named
        rcases ended : run (respond rules script) (recreating charm option) (reached bag option) with ⟨e | done,s⟩ <;>
          rw [ended] at kept
        · exact there
        · exact kept
      refine ⟨fun unfailed => ⟨_,left,accepted_nameText valid,?_⟩,fun _ _ => left.trans there.symm⟩
      have built : (World.build bag option).built = PeerStateApp.nameText option := by
        simp [World.build,there,nonEmpty,named]
      rw [ran] at unfailed ⊢
      rcases ended : run (respond rules script) (recreating charm option)
        (reached bag option) with ⟨e | done,s⟩ <;>
        rw [ended] at unfailed
      · exact absurd (.inl fun same => by cases same) unfailed
      · rcases recreating_creates script charm option _ _ _ rfl ended with failed | created
        · exact absurd (.inr failed) unfailed
        · rw [← built]
          exact created

/-- The option is unset: the action leaves the text "None" for a cluster-set that has been
    created with the name of the deployment. -/
theorem unset_records_none : ¬ ∀ (charm : Charm) (bag : String → Option String) (option : Option String)
    (script : Script Call Reply Exn), RecordsTrue bag (perform charm bag option script) := by
  intro always
  have records := always ⟨.vm,"mysql",0,"cluster-set","10.0.0.10"⟩ (fun _ => some "cluster-set-aa11bb22") none leading
  obtain ⟨unfailed,recorded,created⟩ := perform_leading ⟨.vm,"mysql",0,"cluster-set","10.0.0.10"⟩
    (fun _ => some "cluster-set-aa11bb22") (rfl : accepted none = true)
  obtain ⟨name,left,_,same⟩ := records.succeeds unfailed
  exact absurd (left.symm.trans recorded) (by
    rw [← same,created]
    decide)

end MysqlOperators.DomainName
