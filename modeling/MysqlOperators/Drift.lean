import MysqlOperators.Interleaving
import Mathlib.Data.List.Nodup
import MysqlOperators.Config
import MysqlOperators.RollingOps
import MysqlOperators.Quiet

/-!
The configuration file of a unit and the variables of its server, over runs of
config-changed hooks, restarts of the server and grants of the restart lock. A hook
writes the file before it sets the variables that can be set at run time, and asks
for a restart for the others.
-/
namespace MysqlOperators.Drift
open MysqlOperators.Program MysqlOperators.Program.Prog MysqlOperators.External MysqlOperators.Clients
open MysqlOperators.Workload MysqlOperators.Helpers MysqlOperators.Config MysqlOperators.RollingOps
open MysqlOperators.Quiet MysqlOperators.Interleaving
open MysqlOperators.Config.ConfigHelper (variableOf)

/-! ### The unit -/

/-- The custom configuration file, the variables of the running server, whether a
    restart is requested and not executed, and whether a hook is running. -/
structure World where
  file : Option Databag
  running : String → Option String
  pending : Bool
  busy : Bool

inductive Job where
  | configChanged (order : SetOrder) (config : CharmConfig)
  /-- The callback of the restart lock, with the polls that it has time for. -/
  | restart (polls : Nat)

inductive Act where
  /-- The server restarts by itself. -/
  | serverRestarts
deriving DecidableEq, Repr

/-- The variables that a server has when it has read the file. -/
def loaded (file : Option Databag) (name : String) : Option String :=
  ((file.getD []).find? (fun entry => variableOf entry.1 == name)).map Prod.snd

namespace World

/-- Every key of the file has its value in the running server. -/
def matched (w : World) : Bool := (w.file.getD []).all (fun entry => w.running (variableOf entry.1) == some entry.2)

/-- Every key of the file has its value in the running server, or a restart is
    requested and not executed. -/
def applied (w : World) : Bool := w.pending || w.matched

def load (w : World) : World := { w with running := loaded w.file }

def begin_ (w : World) (_ : Unit) : Job → Option World
  | .configChanged _ _ => if w.busy then none else some { w with busy := true }
  | .restart _ => if w.busy then none else if w.pending then some { w with busy := true } else none

/-- A lock that is released has executed its restart. -/
def finish (w : World) (_ : Unit) (_ : Job) : Except Exn (Option OperationResult) → World
  | .ok (some .release) => { w with pending := false, busy := false }
  | _ => { w with busy := false }

end World

/-- The cluster name of the application, in the databag and in the metadata. -/
structure Charmed where
  charm : Charm
  cluster : String

namespace Charmed
variable (charmed : Charmed)

def program (_ : Unit) : Job → Hook (Option OperationResult)
  | .configChanged order config => do
    onConfigChanged charmed.charm order config
    pure none
  | .restart polls => do
    let result ← RollingHelper.restartInstance charmed.charm polls
    pure (some result)

def answer (w : World) (_ : Unit) : (c : Call) → Except Exn (Reply c) → Except Exn (Reply c)
  | .readServerConfig, .ok _ =>
    match w.file with
    | some file => .ok file
    | none => .error ⟨.fileNotFoundError,"z-custom-mysqld.cnf"⟩
  | .appData _, .ok _ => .ok (some charmed.cluster)
  | _, r => r

def change (w : World) : Call → World
  | .writeServerConfig content => { w with file := some content }
  | .setVariable _ name value => { w with running := fun other => if other = name then some value else w.running other }
  | .requestLock _ => { w with pending := true }
  | .snapStart _ | .containerStart _ => w.load
  | _ => w

/-- A file that cannot be found has not been written. -/
def effect (w : World) (_ : Unit) (c : Call) : Except Exn (Reply c) → Bool → World
  | .ok _, _ => change w c
  | .error e, happened => if happened && !e.isFileNotFound then change w c else w

def act (w : World) : Act → World
  | .serverRestarts => w.load

def system : System Unit Job Call Reply Exn (Option OperationResult) World Act where
  program := charmed.program
  answer := charmed.answer
  effect := effect
  begin_ := World.begin_
  finish := World.finish
  act := act

/-- The name that `initialized` looks for among the labels. -/
def label : String := (nonEmpty (some charmed.cluster)).getD ""

end Charmed

/-- The answers with which a unit is found initialised. -/
def affirms (charmed : Charmed) : (c : Call) → Reply c → Bool
  | .snapPresent, answer | .snapServiceActive, answer | .canConnect, answer => answer
  | .serviceRunning _, running => running == some true
  | .clusterLabels _, labels => List.contains labels charmed.label
  | _, _ => true

/-- The file is written as a whole, every variable of the old file that is not static
    is in the new one, and until the new file is applied no call raises and the unit
    is found initialised. -/
def unhindered (charmed : Charmed) : Condition Unit Call Reply Exn World Act where
  call w _ c r happened :=
    match c,r with
    | .writeServerConfig content, .ok _ =>
      (ConfigManager.filterStaticKeys ((w.file.getD []).map Prod.fst)).all (content.map Prod.fst).contains
    | .writeServerConfig _, .error e => !happened || e.isFileNotFound
    | c, .ok answer => w.applied || affirms charmed c answer
    | _, .error _ => w.applied
  act _ _ := true

/-- A config-changed hook that has returned has left nothing unapplied. -/
def NothingLost (s : State Unit Job Call Reply Exn (Option OperationResult) World) : Prop :=
  s.returned () = some none → s.world.applied = true

/-- A server that runs with the file of its installation. -/
def installed (s : Substrate) (config : CharmConfig) (address : String) (memory : Int) : World :=
  let file := ConfigManager.texts (configFor s config address memory)
  ⟨some file,loaded (some file),false,false⟩

/-! ### Files -/

/-- No two keys name the same variable. -/
def Regular (file : Databag) : Prop := (file.map (fun entry => variableOf entry.1)).Nodup

theorem configFor_keys (s : Substrate) (c : CharmConfig) (address : String) (memory : Int) :
    (configFor s c address memory).map Prod.fst =
      (configFor .vm ⟨none,.test,none,1,.all,c.pluginAuditEnabled,.async⟩ "" 0).map Prod.fst := by
  obtain ⟨n,profile,limit,days,policy,audit,strategy⟩ := c
  cases profile <;> cases audit <;> rfl

theorem regular_texts (s : Substrate) (c : CharmConfig) (address : String) (memory : Int) :
    Regular (ConfigManager.texts (configFor s c address memory)) := by
  have keys : (ConfigManager.texts (configFor s c address memory)).map (fun entry => variableOf entry.1) =
      ((configFor s c address memory).map Prod.fst).map variableOf := by
    simp [ConfigManager.texts]
  rw [Regular,keys,configFor_keys]
  -- the keys of the audit plugin come last, so those without it are a part of those with it
  have audited : (((configFor .vm ⟨none,.test,none,1,.all,true,.async⟩ "" 0).map Prod.fst).map variableOf).Nodup := by
    decide +kernel
  cases c.pluginAuditEnabled with
  | true => exact audited
  | false =>
    simp only [configFor,buildServerConfig,if_true,if_false,Bool.false_eq_true,List.map_append,List.append_nil] at audited ⊢
    exact (List.nodup_append.mp audited).1

theorem eq_of_variable {file : Databag} (regular : Regular file) {e e' : String × String} (member : e ∈ file)
    (member' : e' ∈ file) (same : variableOf e.1 = variableOf e'.1) : e = e' :=
  List.inj_on_of_nodup_map regular member member' same

theorem loaded_of_mem {file : Databag} (regular : Regular file) {e : String × String} (member : e ∈ file) :
    loaded (some file) (variableOf e.1) = some e.2 := by
  unfold loaded
  cases found : file.find? (fun entry => variableOf entry.1 == variableOf e.1) with
  | none => exact absurd (beq_self_eq_true (variableOf e.1)) (List.find?_eq_none.mp found e member)
  | some e' =>
    have same := eq_of_variable regular (List.mem_of_find?_eq_some found) member (by simpa using List.find?_some found)
    simp [found,same]

theorem mem_of_lookup {file : Databag} {key value : String} (found : file.lookup key = some value) :
    (key,value) ∈ file := by
  obtain ⟨before,after,rfl,_⟩ := List.lookup_eq_some_iff.mp found
  simp

theorem lookup_of_mem {file : Databag} (regular : Regular file) {e : String × String} (member : e ∈ file) :
    file.lookup e.1 = some e.2 := by
  cases found : file.lookup e.1 with
  | none => simpa using List.lookup_eq_none_iff.mp found e member
  | some value =>
    have same := eq_of_variable regular (mem_of_lookup found) member rfl
    rw [← same]

/-- An entry of the new file that is not in the old one is in their difference. -/
theorem mem_computeDiff {old new : Databag} (regular : Regular new) {e : String × String} (member : e ∈ new) :
    e ∈ old ∨ e.1 ∈ ConfigManager.computeDiff old new := by
  have key : e.1 ∈ new.map Prod.fst := List.mem_map_of_mem member
  have value := lookup_of_mem regular member
  cases found : old.lookup e.1 with
  | none =>
    have new : e.1 ∉ old.map Prod.fst := by
      intro listed
      obtain ⟨e',member',same⟩ := List.mem_map.mp listed
      simpa [same] using List.lookup_eq_none_iff.mp found e' member'
    refine .inr (List.mem_append_left _ (List.mem_append_right _ (List.mem_filter.mpr ⟨key,?_⟩)))
    simpa using new
  | some v =>
    have old' := mem_of_lookup found
    by_cases same : v = e.2
    · rw [same] at old'
      exact .inl old'
    · refine .inr (List.mem_append_right _ (List.mem_filter.mpr ⟨List.mem_filter.mpr ⟨?_,?_⟩,?_⟩))
      · exact List.mem_map.mpr ⟨_,old',rfl⟩
      · simpa using key
      · simpa [found,value] using same

/-! ### The contract -/

theorem applied_iff {w : World} : w.applied = true ↔
    w.pending = true ∨ ∀ e ∈ w.file.getD [], w.running (variableOf e.1) = some e.2 := by
  simp [World.applied,World.matched]

structure Inv (w : World) : Prop where
  regular : Regular (w.file.getD [])
  idle : w.busy = false → w.applied = true

def contract (charmed : Charmed) : Contract Unit Call Reply Exn World Act where
  condition := unhindered charmed
  inv := Inv
  guarantee _ _ _ := True
  environment w w' := w' = w.load
  safe _ _ _ := True

/-- A hook begins when everything is applied, and a restart when it is requested. A
    hook ends with everything applied, and a restart is released with the file loaded. -/
def duties : Contract.Duties Unit Job Exn (Option OperationResult) World where
  starts _ _ w := w.busy = true ∧ w.applied = true
  ends _ _ r w := w.applied = true ∧ (r = .ok (some .release) → w.matched = true)

theorem matched_load {w : World} (inv : Inv w) : w.load.matched = true := by
  simp only [World.matched,World.load,List.all_eq_true,beq_iff_eq]
  intro e member
  cases file : w.file with
  | none => simp [file] at member
  | some f =>
    have regular := inv.regular
    rw [file] at regular member
    exact loaded_of_mem regular member

theorem applied_of_matched {w : World} (matched : w.matched = true) : w.applied = true := by
  simp [World.applied,matched]

theorem inv_load {w : World} (inv : Inv w) : Inv w.load := ⟨inv.regular,fun _ => applied_of_matched (matched_load inv)⟩

/-- What is left to do: every entry of the new file has its value in the server, or
    is to be set, or is static with a restart due. -/
def Progress (old new : Databag) (todo : List String) (w : World) : Prop :=
  (w.busy = true ∧ w.file = some new) ∧ (w.pending = true ∨ ∀ e ∈ new, w.running (variableOf e.1) = some e.2 ∨ e.1 ∈ todo ∨
    (ConfigManager.allStaticKeys.contains e.1 = true ∧ ConfigHelper.checkRestart old new = true))

section
variable {charmed : Charmed} {α : Type}

theorem stable_of {L : World → Prop} (kept : ∀ w, Inv w → L w → L w.load) : (contract charmed).Stable () L := by
  rintro w w' before _ holds (rfl | ⟨v,other,_⟩)
  · exact kept w before holds
  · exact absurd rfl other

theorem stable_applied : (contract charmed).Stable () (fun w => w.applied = true) :=
  stable_of fun _ inv _ => applied_of_matched (matched_load inv)

theorem stable_matched : (contract charmed).Stable () (fun w => w.matched = true) :=
  stable_of fun _ inv _ => matched_load inv

theorem stable_begun : (contract charmed).Stable () (fun w => w.busy = true ∧ w.applied = true) :=
  stable_of fun _ inv holds => ⟨holds.1,applied_of_matched (matched_load inv)⟩

theorem stable_progress {old new : Databag} {todo : List String} :
    (contract charmed).Stable () (Progress old new todo) := by
  refine stable_of fun w inv holds => ⟨holds.1,.inr fun e member => .inl ?_⟩
  have all := matched_load inv
  simp only [World.matched,List.all_eq_true,beq_iff_eq] at all
  exact all e (by simpa [World.load,holds.1.2] using member)

/-! ### Calls -/

/-- Calls that change neither the file nor the server nor its restart. -/
def plain : Call → Bool
  | .writeServerConfig _ | .setVariable _ _ _ | .requestLock _ | .snapStart _ | .containerStart _ => false
  | _ => true

theorem effect_plain {c : Call} (calm : plain c = true) (w : World) (r : Except Exn (Reply c)) (happened : Bool) :
    Charmed.effect w () c r happened = w := by
  have same : Charmed.change w c = w := by
    unfold Charmed.change
    split <;> first | rfl | cases calm
  unfold Charmed.effect
  split
  · exact same
  · rw [same,ite_self]

/-- A plain call is affirmed unless everything is applied. -/
theorem affirmed {c : Call} (calm : plain c = true) {w : World} {r : Except Exn (Reply c)} {happened : Bool}
    (allowed : (unhindered charmed).call w () c r happened = true) :
    (∃ a, r = .ok a ∧ affirms charmed c a = true) ∨ w.applied = true := by
  cases r with
  | error e => cases c <;> first | exact .inr allowed | cases calm
  | ok a =>
    have either : (w.applied || affirms charmed c a) = true := by cases c <;> first | exact allowed | cases calm
    rcases Bool.or_eq_true_iff.mp either with applied | yes
    · exact .inr applied
    · exact .inl ⟨a,rfl,yes⟩

/-- What a call does, for every answer that it may get. -/
theorem takes_of {c : Call} {L : World → Prop} {Q : Except Exn (Reply c) → World → Prop}
    (outcome : ∀ w r happened, Inv w → L w → (unhindered charmed).call w () c r happened = true →
      Inv (Charmed.effect w () c r happened) ∧ Q r (Charmed.effect w () c r happened)) :
    (contract charmed).Takes charmed.system () c L Q := by
  refine fun w inv holds => ⟨trivial,fun raw happened allowed => ?_⟩
  obtain ⟨inv',after⟩ := outcome w _ happened inv holds allowed
  exact ⟨inv',trivial,after⟩

theorem takes_plain {c : Call} (calm : plain c = true) {L : World → Prop} {Q : Except Exn (Reply c) → World → Prop}
    (learns : ∀ w raw happened, Inv w → L w →
      (unhindered charmed).call w () c (charmed.answer w () c raw) happened = true → Q (charmed.answer w () c raw) w) :
    (contract charmed).Takes charmed.system () c L Q := by
  refine fun w inv holds => ⟨trivial,fun raw happened allowed => ?_⟩
  have same : charmed.system.effect w () c (charmed.system.answer w () c raw) happened = w := effect_plain calm w _ _
  rw [same]
  exact ⟨inv,trivial,learns w raw happened inv holds allowed⟩

/-- A program of plain calls keeps what it knows. -/
theorem outline_plain {L : World → Prop} (stable : (contract charmed).Stable () L) {p : Hook α}
    (avoids : Avoids (fun c => plain c = false) p) : (contract charmed).Outline charmed.system () p L (fun _ => L) :=
  Contract.outline_frame stable (fun _ calm => takes_plain (by simpa using calm) (fun _ _ _ _ holds _ => holds)) avoids

theorem plain_loud (c : Call) (h : plain c = false) : Loud c := by
  unfold plain at h
  split at h <;> first | rfl | cases h

/-! ### The file -/

/-- The old file holds and is applied. -/
def Read (old : Databag) (w : World) : Prop := (w.busy = true ∧ w.applied = true) ∧ w.file = some old

theorem stable_read {old : Databag} : (contract charmed).Stable () (Read old) :=
  stable_of fun _ inv holds => ⟨⟨holds.1.1,applied_of_matched (matched_load inv)⟩,holds.2⟩

theorem outline_loadConfig : (contract charmed).Outline charmed.system () ConfigHelper.loadConfig
    (fun w => w.busy = true ∧ w.applied = true)
    (fun r w => (w.busy = true ∧ w.applied = true) ∧ ∀ old, r = .ok old → w.file = some old) := by
  refine Contract.outline_perform stable_begun (takes_plain rfl fun w raw _ _ holds _ => ⟨holds,fun old answered => ?_⟩)
  cases raw with
  | error e => cases answered
  | ok f =>
    cases file : w.file with
    | none => simp [Charmed.answer,file] at answered
    | some f' =>
      simp only [Charmed.answer,file,Except.ok.injEq] at answered
      rw [answered]

/-- The new file has every variable that is set at run time, and what remains to be
    applied are the differences from the old one. -/
def Written (old new : Databag) (w : World) : Prop :=
  (Regular new ∧ ∀ key ∈ ConfigManager.filterStaticKeys (old.map Prod.fst), key ∈ new.map Prod.fst) ∧
    (w.busy = true ∧ w.file = some new) ∧ (w.pending = true ∨
      ∀ e ∈ new, w.running (variableOf e.1) = some e.2 ∨ e.1 ∈ ConfigManager.computeDiff old new)

theorem takes_write {old new : Databag} (regular : Regular new) :
    (contract charmed).Takes charmed.system () (.writeServerConfig new) (Read old)
      (fun r w => (∀ a, r = .ok a → Written old new w) ∧ (∀ e, r = .error e → w.applied = true)) := by
  refine takes_of fun w r happened inv holds allowed => ?_
  obtain ⟨⟨busy,applied⟩,file⟩ := holds
  cases r with
  | error e =>
    have unwritten : (!happened || e.isFileNotFound) = true := allowed
    have kept : Charmed.effect w () (.writeServerConfig new) (.error e) happened = w := by
      simp only [Charmed.effect]
      cases happened <;> simp_all
    rw [kept]
    exact ⟨inv,nofun,fun _ _ => applied⟩
  | ok a =>
    refine ⟨⟨regular,fun idle => ?_⟩,fun _ _ => ⟨⟨regular,fun key member => ?_⟩,⟨busy,rfl⟩,?_⟩,nofun⟩
    · have idle : w.busy = false := idle
      rw [busy] at idle
      cases idle
    · simp only [unhindered,file,List.all_eq_true] at allowed
      exact List.contains_iff_mem.mp (allowed key member)
    · rcases applied_iff.mp applied with pending | all
      · exact .inl pending
      · refine .inr fun e member => ?_
        rcases @mem_computeDiff old new regular e member with kept | differs
        · exact .inl (all e (by rw [file]; exact kept))
        · exact .inr differs

theorem outline_saveConfig (config : CharmConfig) {old : Databag} :
    (contract charmed).Outline charmed.system () (ConfigHelper.saveConfig charmed.charm config) (Read old)
      (fun r w => (∀ new, r = .ok new → Written old new w) ∧ (∀ e, r = .error e → w.applied = true)) := by
  have failed {r : Except Exn Databag} {e : Exn} (same : r = .error e) {w : World} (read : Read old w) :
      (∀ new, r = .ok new → Written old new w) ∧ (∀ e, r = .error e → w.applied = true) :=
    ⟨fun _ ok => (by rw [same] at ok; cases ok),fun _ _ => read.1.2⟩
  refine Contract.outline_bind (outline_plain stable_read (avoids_mono plain_loud (quiet_getUnitAddress _ _ _)))
    (fun address => ?_) (fun e w _ read => failed rfl read)
  refine Contract.outline_bind (outline_plain stable_read (avoids_ask (by decide))) (fun memory => ?_)
    (fun e w _ read => failed rfl read)
  refine Contract.outline_bind (Contract.outline_perform stable_read (takes_write (regular_texts _ _ _ _)))
    (fun _ => ?_) (fun e w _ wrote => ⟨nofun,fun _ _ => wrote.2 e rfl⟩)
  exact fun w _ wrote => ⟨fun _ same => by cases same; exact wrote.1 () rfl,nofun⟩

/-! ### The variables -/

theorem takes_setVariable {old new : Databag} {rest : List String} (regular : Regular new) {e : String × String}
    (member : e ∈ new) :
    (contract charmed).Takes charmed.system () (.setVariable .own (variableOf e.1) e.2) (Progress old new (e.1 :: rest))
      (fun r w => (∀ a, r = .ok a → Progress old new rest w) ∧ (∀ e, r = .error e → w.applied = true)) := by
  refine takes_of fun w r happened inv holds allowed => ?_
  obtain ⟨⟨busy,file⟩,left⟩ := holds
  let after : World := Charmed.change w (.setVariable .own (variableOf e.1) e.2)
  have sets (e' : String × String) (member' : e' ∈ new) : after.running (variableOf e'.1) = some e'.2 ∨
      e'.1 ≠ e.1 ∧ after.running (variableOf e'.1) = w.running (variableOf e'.1) := by
    by_cases same : variableOf e'.1 = variableOf e.1
    · have same := eq_of_variable regular member' member same
      subst same
      exact .inl (by simp [after,Charmed.change])
    · exact .inr ⟨fun key => same (by rw [key]),by simp [after,Charmed.change,same]⟩
  have inv' : Inv after := ⟨inv.regular,fun idle => by rw [show w.busy = false from idle] at busy; cases busy⟩
  cases r with
  | ok a =>
    refine ⟨inv',fun _ _ => ⟨⟨busy,file⟩,left.imp_right fun all e' member' => ?_⟩,nofun⟩
    rcases sets e' member' with now | ⟨other,same⟩
    · exact .inl now
    · have before := all e' member'
      rw [← same] at before
      exact before.imp_right (Or.imp_left fun todo => (List.mem_cons.mp todo).resolve_left other)
  | error fault =>
    have applied : w.applied = true := allowed
    have done : after.applied = true := by
      refine applied_iff.mpr ((applied_iff.mp applied).imp_right fun all e' member' => ?_)
      have member' : e' ∈ new := by simpa [after,Charmed.change,file] using member'
      rcases sets e' member' with now | ⟨_,same⟩
      · exact now
      · rw [same]
        exact all e' (by rw [file]; exact member')
    simp only [Charmed.effect]
    split
    · exact ⟨inv',nofun,fun _ _ => done⟩
    · exact ⟨inv,nofun,fun _ _ => applied⟩

theorem outline_applyEach {old new : Databag} (regular : Regular new) (keys : List String)
    (sub : ∀ key ∈ keys, key ∈ new.map Prod.fst) :
    (contract charmed).Outline charmed.system () (ConfigHelper.applyEach new keys) (Progress old new keys)
      (fun r w => (∀ a, r = .ok a → Progress old new [] w) ∧ (∀ e, r = .error e → w.applied = true)) := by
  induction keys with
  | nil => exact fun w _ progress => ⟨fun _ _ => progress,nofun⟩
  | cons key rest ih =>
    obtain ⟨e,member,rfl⟩ := List.mem_map.mp (sub key (by simp))
    have value : ConfigHelper.valueAt new e.1 = pure e.2 := by rw [ConfigHelper.valueAt,lookup_of_mem regular member]
    simp only [ConfigHelper.applyEach,value,pure_bind]
    refine Contract.outline_bind (Contract.outline_perform stable_progress (takes_setVariable regular member))
      (fun _ => ?_) (fun e w _ set => ⟨nofun,fun _ _ => set.2 e rfl⟩)
    refine Contract.outline_pre (ih fun key member => sub key (by simp [member])) (fun w _ set => set.1 () rfl)

/-! ### The restart -/

/-- A plain call whose answer is affirmed unless everything is applied. -/
theorem outline_check {L : World → Prop} (stable : (contract charmed).Stable () L) {c : Call} (calm : plain c = true) :
    (contract charmed).Outline charmed.system () (ask c) L
      (fun r w => L w ∧ ((∃ a, r = .ok a ∧ affirms charmed c a = true) ∨ w.applied = true)) :=
  Contract.outline_perform stable (takes_plain calm fun _ _ _ _ holds allowed => ⟨holds,affirmed calm allowed⟩)

theorem outline_running {L : World → Prop} (stable : (contract charmed).Stable () L) (s : Substrate) :
    (contract charmed).Outline charmed.system () (ServerService.running s) L
      (fun r w => L w ∧ (r = .ok true ∨ w.applied = true)) := by
  have denied {w : World} {b : Bool} (no : ¬ b = true)
      (found : (∃ a, (.ok b : Except Exn Bool) = .ok a ∧ a = true) ∨ w.applied = true) : w.applied = true := by
    rcases found with ⟨a,same,yes⟩ | applied
    · cases same
      exact absurd yes no
    · exact applied
  cases s with
  | vm =>
    refine Contract.outline_bind (outline_check stable rfl) (fun present => ?_)
      (fun _ _ _ found => ⟨found.1,.inr (found.2.resolve_left nofun)⟩)
    refine Contract.outline_ite _ (fun _ => ?_) (fun no w _ found => ⟨found.1,.inr (denied no found.2)⟩)
    refine Contract.outline_pre (Contract.outline_post (outline_check stable rfl) fun r w _ found => ?_)
      (fun _ _ found => found.1)
    refine ⟨found.1,found.2.imp_left ?_⟩
    rintro ⟨a,same,yes⟩
    have yes : a = true := yes
    rw [same,yes]
  | k8s =>
    refine Contract.outline_bind (outline_check stable rfl) (fun ready => ?_)
      (fun _ _ _ found => ⟨found.1,.inr (found.2.resolve_left nofun)⟩)
    refine Contract.outline_ite _ (fun _ => ?_) (fun no w _ found => ⟨found.1,.inr (denied no found.2)⟩)
    refine Contract.outline_bind (Contract.outline_pre (outline_check stable rfl) (fun _ _ found => found.1))
      (fun running => ?_) (fun _ _ _ found => ⟨found.1,.inr (found.2.resolve_left nofun)⟩)
    have yes {w : World} (found : (∃ a, (.ok running : Except Exn (Option Bool)) = .ok a ∧
        affirms charmed (.serviceRunning ServerService.name) a = true) ∨ w.applied = true) :
        running = some true ∨ w.applied = true := by
      rcases found with ⟨a,same,yes⟩ | applied
      · cases same
        exact .inl (beq_iff_eq.mp yes)
      · exact .inr applied
    split
    · exact fun w _ found => ⟨found.1,.inr ((yes found.2).resolve_left nofun)⟩
    · exact fun w _ found => ⟨found.1,(yes found.2).imp_left fun same => by rw [Option.some.inj same]⟩

theorem outline_initialized {L : World → Prop} (stable : (contract charmed).Stable () L) :
    (contract charmed).Outline charmed.system () (initialized charmed.charm) L
      (fun r w => L w ∧ (r = .ok true ∨ w.applied = true)) := by
  refine Contract.outline_bind (outline_running stable _) (fun runs => ?_)
    (fun _ _ _ found => ⟨found.1,.inr (found.2.resolve_left nofun)⟩)
  refine Contract.outline_ite _ (fun yes => ?_) (fun no w _ found => ⟨found.1,.inr (found.2.resolve_left fun same => ?_)⟩)
  · have labels : (contract charmed).Outline charmed.system () InstanceClient.fetchClusterLabels L
        (fun r w => L w ∧ ((∃ labels, r = .ok labels ∧ labels.contains charmed.label = true) ∨ w.applied = true)) :=
      Contract.outline_tryElse (outline_check stable rfl)
        (fun e _ w _ found => ⟨found.1,.inr (found.2.resolve_left nofun)⟩)
        (fun labels w _ found => ⟨found.1,found.2.imp_left fun ⟨a,same,yes⟩ => ⟨a,same,yes⟩⟩)
        (fun e _ w _ found => ⟨found.1,.inr (found.2.resolve_left nofun)⟩)
    refine Contract.outline_tryElse (Contract.outline_pre labels (fun _ _ found => found.1))
      (fun e _ w _ found => ⟨found.1,.inr (found.2.resolve_left nofun)⟩) (fun labels => ?_)
      (fun e _ w _ found => ⟨found.1,.inr (found.2.resolve_left nofun)⟩)
    have stable' : (contract charmed).Stable ()
        (fun w => L w ∧ (labels.contains charmed.label = true ∨ w.applied = true)) := fun w w' before after holds moves =>
      ⟨stable w w' before after holds.1 moves,holds.2.imp_right fun applied =>
        stable_applied w w' before after applied moves⟩
    have named : (contract charmed).Outline charmed.system () clusterName
        (fun w => L w ∧ (labels.contains charmed.label = true ∨ w.applied = true))
        (fun r w => (L w ∧ (labels.contains charmed.label = true ∨ w.applied = true)) ∧
          (r = .ok charmed.label ∨ w.applied = true)) := by
      refine Contract.outline_bind (Contract.outline_perform stable' (takes_plain (Q := fun r w =>
        (L w ∧ (labels.contains charmed.label = true ∨ w.applied = true)) ∧
          (r = .ok (some charmed.cluster) ∨ w.applied = true)) rfl
        fun w raw _ _ holds allowed => ⟨holds,?_⟩)) (fun name => ?_)
        (fun _ _ _ found => ⟨found.1,.inr (found.2.resolve_left nofun)⟩)
      · cases raw with
        | error e => exact .inr ((affirmed rfl allowed).resolve_left nofun)
        | ok a => exact .inl rfl
      · exact fun w _ found => ⟨found.1,found.2.imp_left fun same => by rw [Except.ok.inj same]; rfl⟩
    refine Contract.outline_seq named (fun w _ found => ⟨found.1,found.2.imp_left ?_⟩) (fun name => ?_)
      (fun _ _ _ found => ⟨found.1.1,.inr (found.2.resolve_left nofun)⟩)
    · rintro ⟨a,same,yes⟩
      cases same
      exact yes
    · intro w _ found
      refine ⟨found.1.1,?_⟩
      rcases found.1.2 with listed | applied
      · refine found.2.imp_left fun same => ?_
        rw [Except.ok.inj same,listed]
      · exact .inr applied
  · cases same
    exact no rfl

theorem outline_save (config : CharmConfig) : (contract charmed).Outline charmed.system ()
    (do let configOld ← ConfigHelper.loadConfig
        let configNew ← ConfigHelper.saveConfig charmed.charm config
        pure (configOld,configNew) : Hook (Databag × Databag)) (fun w => w.busy = true ∧ w.applied = true)
    (fun r w => (∀ old new, r = .ok (old,new) → Written old new w) ∧ (∀ e, r = .error e → w.applied = true)) := by
  refine Contract.outline_bind outline_loadConfig (fun old => ?_) (fun _ _ _ read => ⟨nofun,fun _ _ => read.1.2⟩)
  refine Contract.outline_seq (outline_saveConfig config) (fun w _ read => ⟨read.1,read.2 old rfl⟩) (fun new => ?_)
    (fun e _ _ saved => ⟨nofun,fun _ _ => saved.2 e rfl⟩)
  refine fun w _ saved => ⟨fun old' new' same => ?_,nofun⟩
  cases same
  exact saved.1 new rfl

/-- What is set at run time has its value in the new file. -/
theorem mem_of_filtered {old new : Databag}
    (covers : ∀ key ∈ ConfigManager.filterStaticKeys (old.map Prod.fst), key ∈ new.map Prod.fst) {key : String}
    (member : key ∈ ConfigManager.filterStaticKeys (ConfigManager.computeDiff old new)) : key ∈ new.map Prod.fst := by
  obtain ⟨differs,dynamic⟩ := List.mem_filter.mp member
  rcases List.mem_append.mp differs with alone | common
  · rcases List.mem_append.mp alone with removed | added
    · exact covers key (List.mem_filter.mpr ⟨(List.mem_filter.mp removed).1,dynamic⟩)
    · exact (List.mem_filter.mp added).1
  · simpa using (List.mem_filter.mp (List.mem_filter.mp common).1).2

/-- The differences are set one by one or cause a restart. -/
theorem progress_of_written {order : SetOrder} {old new : Databag} {w : World} (busy : w.busy = true)
    (file : w.file = some new) (left : w.pending = true ∨
      ∀ e ∈ new, w.running (variableOf e.1) = some e.2 ∨ e.1 ∈ ConfigManager.computeDiff old new) :
    Progress old new (order.arrange (ConfigManager.filterStaticKeys (ConfigManager.computeDiff old new))) w := by
  refine ⟨⟨busy,file⟩,left.imp_right fun all e member => (all e member).imp_right fun differs => ?_⟩
  by_cases static : ConfigManager.allStaticKeys.contains e.1 = true
  · exact .inr ⟨static,List.any_eq_true.mpr ⟨e.1,differs,static⟩⟩
  · exact .inl ((order.perm _).mem_iff.mpr (List.mem_filter.mpr ⟨differs,by simpa using static⟩))

theorem applied_of_progress {old new : Databag} {w : World} (progress : Progress old new [] w)
    (calm : ConfigHelper.checkRestart old new = false) : w.applied = true := by
  refine applied_iff.mpr (progress.2.imp_right fun all e member => ?_)
  rw [progress.1.2] at member
  rcases all e member with set | todo | ⟨_,restart⟩
  · exact set
  · cases todo
  · rw [calm] at restart
    cases restart

theorem outline_requestLock {old new : Databag} :
    (contract charmed).Outline charmed.system () (ask (.requestLock "restart")) (Progress old new [])
      (fun _ w => w.applied = true) := by
  refine Contract.outline_perform stable_progress (takes_of fun w r happened inv _ allowed => ?_)
  have requested : ({ w with pending := true } : World).applied = true := rfl
  have inv' : Inv { w with pending := true } := ⟨inv.regular,fun _ => requested⟩
  cases r with
  | ok a => exact ⟨inv',requested⟩
  | error e =>
    have applied : w.applied = true := allowed
    simp only [Charmed.effect]
    split
    · exact ⟨inv',requested⟩
    · exact ⟨inv,applied⟩

theorem outline_onConfigChanged (order : SetOrder) (config : CharmConfig) :
    (contract charmed).Outline charmed.system () (onConfigChanged charmed.charm order config)
      (fun w => w.busy = true ∧ w.applied = true) (fun _ w => w.applied = true) := by
  refine Contract.outline_bind (outline_plain stable_begun (avoids_ask (c := .refreshing) (by decide)))
    (fun refreshing => ?_) (fun _ _ _ begun => begun.2)
  refine Contract.outline_ite _ (fun _ w _ begun => begun.2) (fun _ => ?_)
  refine Contract.outline_tryElse (outline_save config) (fun e _ w _ saved => saved.2 e rfl) (fun configs => ?_)
    (fun e _ w _ saved => saved.2 e rfl)
  obtain ⟨old,new⟩ := configs
  refine Contract.outline_pre (Contract.outline_assuming fun facts => ?_) (fun w _ saved => saved.1 old new rfl)
  refine Contract.outline_seq (outline_applyEach facts.1 _ fun key member => ?_)
    (fun w _ saved => progress_of_written saved.1.1 saved.1.2 saved.2) (fun _ => ?_) (fun e _ _ ended => ended.2 e rfl)
  · exact mem_of_filtered facts.2 ((order.perm _).mem_iff.mp member)
  · refine Contract.outline_seq (outline_initialized stable_progress) (fun w _ ended => ended.1 () rfl) (fun ready => ?_)
      (fun _ _ _ found => found.2.resolve_left nofun)
    refine Contract.outline_ite _ (fun _ => Contract.outline_pre outline_requestLock (fun _ _ found => found.1))
      (fun no w _ found => ?_)
    rcases found.2 with same | applied
    · refine applied_of_progress found.1 ?_
      simpa [Except.ok.inj same] using no
    · exact applied

theorem takes_load {c : Call} (loads : ∀ w, Charmed.change w c = w.load) :
    (contract charmed).Takes charmed.system () c (fun w => w.applied = true)
      (fun r w => w.applied = true ∧ ∀ a, r = .ok a → w.matched = true) := by
  refine takes_of fun w r happened inv applied _ => ?_
  have loaded : w.load.matched = true := matched_load inv
  cases r with
  | ok a =>
    simp only [Charmed.effect,loads]
    exact ⟨inv_load inv,applied_of_matched loaded,fun _ _ => loaded⟩
  | error e =>
    simp only [Charmed.effect,loads]
    split
    · exact ⟨inv_load inv,applied_of_matched loaded,nofun⟩
    · exact ⟨inv,applied,nofun⟩

/-- A server that has been started has read the file. -/
theorem outline_start (s : Substrate) :
    (contract charmed).Outline charmed.system () (ServerService.start s) (fun w => w.applied = true)
      (fun r w => w.applied = true ∧ ∀ a, r = .ok a → w.matched = true) := by
  have connects : (contract charmed).Outline charmed.system () (ask (.waitForConnection ServerService.port))
      (fun w => w.applied = true ∧ ∀ a : Unit, (.ok () : Except Exn Unit) = .ok a → w.matched = true)
      (fun r w => w.applied = true ∧ ∀ a, r = .ok a → w.matched = true) :=
    Contract.outline_pre (Contract.outline_post (outline_plain stable_matched (avoids_ask (by decide)))
      fun _ _ _ matched => ⟨applied_of_matched matched,fun _ _ => matched⟩) (fun _ _ started => started.2 () rfl)
  cases s with
  | vm =>
    refine Contract.outline_bind (outline_plain stable_applied (avoids_ask (c := .snapPresent) (by decide)))
      (fun _ => ?_) (fun _ _ _ applied => ⟨applied,nofun⟩)
    refine Contract.outline_ite _ (fun _ => ?_) (fun _ w _ applied => ⟨applied,nofun⟩)
    exact Contract.outline_bind (Contract.outline_perform stable_applied (takes_load fun _ => rfl)) (fun _ => connects)
      (fun _ _ _ started => ⟨started.1,nofun⟩)
  | k8s =>
    refine Contract.outline_bind (outline_plain stable_applied (avoids_ask (c := .addLayer ServerService.name) (by decide)))
      (fun _ => ?_) (fun _ _ _ applied => ⟨applied,nofun⟩)
    exact Contract.outline_bind (Contract.outline_perform stable_applied (takes_load fun _ => rfl)) (fun _ => connects)
      (fun _ _ _ started => ⟨started.1,nofun⟩)

theorem plain_stop (s : Substrate) : Avoids (fun c => plain c = false) (ServerService.stop s) := by
  refine avoids_stop (fun c asks => ?_) s
  unfold stopsServer at asks
  split at asks <;> first | contradiction | simp [plain]

theorem plain_mustWait (units : List UnitId) : Avoids (fun c => plain c = false) (RollingHelper.mustWait units) := by
  have scan : ∀ units, Avoids (fun c => plain c = false) (RollingHelper.checkInstanceWaitingOps units) := by
    intro units
    induction units with
    | nil => trivial
    | cons unit rest ih =>
      exact avoids_bind (avoids_ask (by simp [plain])) fun _ => avoids_ite _ (fun _ => trivial) (fun _ => ih)
  exact avoids_bind (avoids_bind (avoids_ask (by decide)) fun _ => trivial) fun _ =>
    avoids_ite _ (fun _ => scan units) (fun _ => trivial)

theorem plain_recoverInstance (polls : Nat) :
    Avoids (fun c => plain c = false) (RollingHelper.recoverInstance charmed.charm polls) := by
  refine avoids_bind (avoids_ask (by decide)) fun _ => avoids_ite _ (fun _ => avoids_ask (by decide)) fun _ => ?_
  refine avoids_bind (avoids_waitRecovering (by decide) polls) fun _ => avoids_retry ?_ _
  refine avoids_bind (avoids_mono plain_loud quiet_fetchClusterLabels) fun _ => ?_
  exact avoids_bind (avoids_mono plain_loud (quiet_fetchInstances _)) fun _ =>
    avoids_ite _ (fun _ => trivial) (fun _ => trivial)

theorem outline_restartInstance (polls : Nat) :
    (contract charmed).Outline charmed.system () (RollingHelper.restartInstance charmed.charm polls)
      (fun w => w.applied = true) (fun r w => w.applied = true ∧ (r = .ok .release → w.matched = true)) := by
  refine Contract.outline_bind (outline_plain stable_applied (avoids_mono plain_loud (quiet_running _))) (fun _ => ?_)
    (fun _ _ _ applied => ⟨applied,nofun⟩)
  refine Contract.outline_ite _ (fun _ => ?_) (fun _ w _ applied => ⟨applied,nofun⟩)
  refine Contract.outline_bind (outline_plain stable_applied (avoids_ask (c := .peersRelation) (by decide)))
    (fun peers => ?_) (fun _ _ _ applied => ⟨applied,nofun⟩)
  split
  · exact fun w _ applied => ⟨applied,nofun⟩
  · refine Contract.outline_bind (outline_plain stable_applied (plain_mustWait _)) (fun _ => ?_)
      (fun _ _ _ applied => ⟨applied,nofun⟩)
    refine Contract.outline_ite _ (fun _ w _ applied => ⟨applied,nofun⟩) (fun _ => ?_)
    refine Contract.outline_bind (Contract.outline_bind (outline_plain stable_applied (plain_stop _))
      (fun _ => outline_start _) (fun _ _ _ applied => ⟨applied,nofun⟩)) (fun _ => ?_)
      (fun _ _ _ started => ⟨started.1,nofun⟩)
    refine Contract.outline_seq (outline_plain stable_matched (plain_recoverInstance polls))
      (fun w _ started => started.2 _ rfl) (fun _ => ?_) (fun _ _ _ matched => ⟨applied_of_matched matched,nofun⟩)
    exact fun w _ matched => ⟨applied_of_matched matched,fun _ => matched⟩

theorem fulfils : (contract charmed).Fulfils charmed.system duties where
  begins w _ job w' inv begun := by
    have starts (free : w.busy = false) :
        Inv { w with busy := true } ∧ True ∧ true = true ∧ w.applied = true :=
      ⟨⟨inv.regular,nofun⟩,trivial,rfl,inv.idle free⟩
    cases job with
    | configChanged order config =>
      simp only [Charmed.system,World.begin_] at begun
      split at begun
      · cases begun
      · cases begun
        exact starts (by simpa using ‹¬w.busy = true›)
    | restart polls =>
      simp only [Charmed.system,World.begin_] at begun
      split at begun
      · cases begun
      · split at begun
        · cases begun
          exact starts (by simpa using ‹¬w.busy = true›)
        · cases begun
  finishes w _ job r inv owed := by
    refine ⟨?_,trivial⟩
    simp only [Charmed.system,World.finish]
    split
    · exact ⟨inv.regular,fun _ => applied_of_matched (owed.2 rfl)⟩
    · exact ⟨inv.regular,fun _ => owed.1⟩
  acts w a inv _ := by
    cases a
    exact ⟨inv_load inv,rfl⟩
  jobs _ job := by
    cases job with
    | configChanged order config =>
      exact Contract.outline_bind (outline_onConfigChanged order config) (fun _ w _ applied => ⟨applied,nofun⟩)
        (fun _ _ _ applied => ⟨applied,nofun⟩)
    | restart polls =>
      refine Contract.outline_seq (outline_restartInstance polls) (fun _ _ begun => begun.2) (fun result => ?_)
        (fun _ _ _ ended => ⟨ended.1,nofun⟩)
      refine fun w _ ended => ⟨ended.1,fun same => ended.2 ?_⟩
      cases same
      rfl
  lasts _ _ _ := stable_of fun _ inv _ => ⟨applied_of_matched (matched_load inv),fun _ => matched_load inv⟩

end

/-- From every installation, in every order of hooks, restarts and grants whose calls
    meet the condition, a hook that has returned has left nothing unapplied. -/
theorem nothingLost_of_unhindered (charmed : Charmed) (s : Substrate) (config : CharmConfig) (address : String)
    (memory : Int) (labels : List (Label Unit Job Call Reply Exn Act))
    (allowed : charmed.system.allAllowed (unhindered charmed) (idle (installed s config address memory)) labels = true) :
    NothingLost (charmed.system.run (idle (installed s config address memory)) labels) := by
  have regular := regular_texts s config address memory
  have inv : Inv (installed s config address memory) := by
    refine ⟨regular,fun _ => applied_iff.mpr (.inr fun e member => ?_)⟩
    exact loaded_of_mem regular member
  have bound := Contract.bound_run (@fulfils charmed) (Contract.bound_idle inv) labels allowed
  intro returned
  obtain ⟨_,applied,_⟩ := Contract.ends_of_bound bound returned
  exact applied

/-- A machine whose binary logs are kept for a week. -/
def machine : Charmed := ⟨⟨.vm,"mysql",0,"cluster",""⟩,"cluster"⟩

def weekly : CharmConfig := ⟨none,.test,none,7,.all,false,.async⟩

/-- They are to be kept for another day. -/
def longer : Job := .configChanged ⟨id,fun _ => .refl _⟩ { weekly with binlogRetentionDays := 8 }

/-- Every call succeeds. -/
def replies : (c : Call) → Except Exn (Reply c)
  | .snapPresent | .snapServiceActive => .ok true
  | .clusterLabels _ => .ok ["cluster"]
  | .peersRelation => .ok (some ⟨[],[("database-peers-address","10.0.0.1")],0⟩)
  | _ => .ok default

/-- The hook runs until it has returned. -/
def hook (reply : (c : Call) → Except Exn (Reply c)) : List (Label Unit Job Call Reply Exn Act) :=
  .start () longer :: List.replicate 11 (.call () reply false)

/-- The file cannot be written, the server restarts by itself, and the hook is run again. -/
def rewritten : List (Label Unit Job Call Reply Exn Act) :=
  hook (fun c => match c with
    | .writeServerConfig _ => .error ⟨.osError,"Read-only file system"⟩
    | c => replies c) ++ [.stop (),.act .serverRestarts] ++ hook replies

theorem nothingLost_rewritten :
    (machine.system.run (idle (installed .vm weekly "10.0.0.1" 0)) rewritten).returned () = some none ∧
      NothingLost (machine.system.run (idle (installed .vm weekly "10.0.0.1" 0)) rewritten) :=
  ⟨by decide +kernel,nothingLost_of_unhindered machine .vm weekly "10.0.0.1" 0 rewritten (by decide +kernel)⟩

/-- The variable cannot be set, and the hook is run again. -/
def retried : List (Label Unit Job Call Reply Exn Act) :=
  hook (fun c => match c with
    | .setVariable _ _ _ => .error ⟨.executionError,"Lost connection to MySQL server"⟩
    | c => replies c) ++ .stop () :: hook replies

/-- The hook that is run again finds no difference, and completes with a variable
    that has not been set. -/
theorem retried_loses :
    ¬ ∀ (charmed : Charmed) (s : Substrate) (config : CharmConfig) (address : String) (memory : Int)
      (labels : List (Label Unit Job Call Reply Exn Act)),
      NothingLost (charmed.system.run (idle (installed s config address memory)) labels) := by
  intro always
  have run : (machine.system.run (idle (installed .vm weekly "10.0.0.1" 0)) retried).returned () = some none ∧
      (machine.system.run (idle (installed .vm weekly "10.0.0.1" 0)) retried).world.applied = false := by
    decide +kernel
  obtain ⟨completed,lost⟩ := run
  have applied := always machine .vm weekly "10.0.0.1" 0 retried completed
  rw [lost] at applied
  cases applied

end MysqlOperators.Drift
