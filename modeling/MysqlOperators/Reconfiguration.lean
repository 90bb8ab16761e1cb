import MysqlOperators.ConfigFile

/-!
A change of the settings, applied to the file that is written for the old ones. The
difference of two configurations has the keys of both, and each key that is not
static is looked up in the new one.
-/
namespace MysqlOperators.Reconfiguration
open MysqlOperators.Program MysqlOperators.Program.Prog MysqlOperators.External MysqlOperators.Clients
open MysqlOperators.Workload MysqlOperators.Helpers MysqlOperators.Scripted MysqlOperators.Config MysqlOperators.Quiet
open MysqlOperators.Drift MysqlOperators.ConfigFile
open MysqlOperators.Config.ConfigHelper (variableOf)
open MysqlOperators.Config.ConfigManager (texts computeDiff filterStaticKeys allStaticKeys)

/-! ### Changes -/

/-- The new settings of a unit, those that its file is written for, and the order in
    which the keys of a set are run through. -/
structure Change where
  new : Deployment
  before : CharmConfig
  accepted : before.Accepted ∧ new.config.Accepted
  address : Address
  memory : Nat
  order : SetOrder

/-- The variables that a run has set. -/
def updates (log : List Call) : List (String × String) :=
  log.filterMap fun
    | .setVariable .own name value => some (name,value)
    | _ => none

namespace Change
variable (ch : Change)

def configOld : Databag := texts (configFor ch.new.charm.substrate ch.before ch.address.text ch.memory)

def configNew : Databag := texts ch.new.serverConfig

def file : List Char := (written ch.configOld).getD []

/-- `EventHelpers.apply_config` on the file of the old settings. -/
def outcome (script : Script Call Reply Exn) : Except Exn Unit × Scene (List Char) Call :=
  play ch.new.rules script (applyConfig ch.new.charm ch.order ch.new.config) ch.file

/-- The entries that can be set at run time and are new or have changed. -/
def changed : Databag :=
  ch.configNew.filter fun entry => !allStaticKeys.contains entry.1 && ch.configOld.lookup entry.1 != some entry.2

/-- No lookup fails, and when every call succeeds, each changed entry is set once to
    its new value and nothing else is set. -/
structure Total : Prop where
  lookups : ∀ script : Script Call Reply Exn, (∀ c n e, script.reply c n = .error e → e.cls ≠ .lookupError) →
    ∀ e, (ch.outcome script).1 = .error e → e.cls ≠ .lookupError
  updates : ∀ answers : (c : Call) → Nat → Reply c,
    (updates (ch.outcome ⟨fun c n => .ok (answers c n),fun _ _ => true⟩).2.log).Perm
      (ch.changed.map fun entry => (variableOf entry.1,entry.2))

/-- The audit plugin is not switched off. -/
def KeepsAudit : Prop := ch.before.pluginAuditEnabled = true → ch.new.config.pluginAuditEnabled = true

end Change

/-! ### The difference -/

theorem nodup_computeDiff {old new : Databag} (nodup : (old.map Prod.fst).Nodup) (nodup' : (new.map Prod.fst).Nodup) :
    (computeDiff old new).Nodup := by
  refine List.nodup_append.mpr ⟨List.nodup_append.mpr ⟨nodup.filter _,nodup'.filter _,?_⟩,
    (nodup.filter _).filter _,?_⟩
  · intro key inOld key' inNew same
    have missing := (List.mem_filter.mp inOld).2
    have present := (List.mem_filter.mp inNew).1
    rw [← same] at present
    simp [present] at missing
  · intro key alone key' common same
    obtain ⟨inOld,inNew⟩ := List.mem_filter.mp (List.mem_filter.mp common).1
    rw [← same] at inOld inNew
    rcases List.mem_append.mp alone with removed | added
    · have missing := (List.mem_filter.mp removed).2
      rw [inNew] at missing
      cases missing
    · have missing := (List.mem_filter.mp added).2
      simp [inOld] at missing

section
variable {old new : Databag}

theorem nodup_keys (regular : Regular old) : (old.map Prod.fst).Nodup := by
  have names : (old.map Prod.fst).map variableOf = old.map (fun entry => variableOf entry.1) := List.map_map ..
  rw [Regular,← names] at regular
  exact regular.of_map

/-- The entries of the new configuration in the difference are the new and the changed
    ones. -/
theorem mem_computeDiff_iff (regular : Regular old) (regular' : Regular new) {entry : String × String}
    (member : entry ∈ new) :
    entry.1 ∈ computeDiff old new ↔ old.lookup entry.1 ≠ some entry.2 := by
  have value := lookup_of_mem regular' member
  have listed : entry.1 ∈ new.map Prod.fst := List.mem_map_of_mem member
  constructor
  · intro differs same
    have inOld : entry.1 ∈ old.map Prod.fst := List.mem_map_of_mem (mem_of_lookup same)
    rcases List.mem_append.mp differs with alone | common
    · rcases List.mem_append.mp alone with removed | added
      · have missing := (List.mem_filter.mp removed).2
        rw [List.contains_iff_mem.mpr listed] at missing
        cases missing
      · have missing := (List.mem_filter.mp added).2
        rw [List.contains_iff_mem.mpr inOld] at missing
        cases missing
    · have unequal := (List.mem_filter.mp common).2
      simp [same,value] at unequal
  · intro other
    rcases @mem_computeDiff old new regular' entry member with kept | differs
    · exact absurd (lookup_of_mem regular kept) other
    · exact differs

/-- Where no key is removed, what is set at run time are the changed entries. -/
theorem filtered_perm (regular : Regular old) (regular' : Regular new)
    (covers : ∀ key ∈ filterStaticKeys (old.map Prod.fst), key ∈ new.map Prod.fst) :
    (filterStaticKeys (computeDiff old new)).Perm ((new.filter fun entry =>
      !allStaticKeys.contains entry.1 && old.lookup entry.1 != some entry.2).map Prod.fst) := by
  have nodup : (filterStaticKeys (computeDiff old new)).Nodup :=
    (nodup_computeDiff (nodup_keys regular) (nodup_keys regular')).filter _
  have nodup' := (List.filter_sublist (p := fun entry : String × String =>
    !allStaticKeys.contains entry.1 && old.lookup entry.1 != some entry.2) (l := new)).map Prod.fst |>.nodup
      (nodup_keys regular')
  refine (List.perm_ext_iff_of_nodup nodup nodup').mpr fun key => ?_
  constructor
  · intro member
    obtain ⟨entry,listed,same⟩ := List.mem_map.mp (mem_of_filtered covers member)
    obtain ⟨differs,dynamic⟩ := List.mem_filter.mp member
    rw [← same] at differs dynamic ⊢
    refine List.mem_map_of_mem (List.mem_filter.mpr ⟨listed,?_⟩)
    have changed := (mem_computeDiff_iff regular regular' listed).mp differs
    rw [dynamic]
    simpa using changed
  · intro member
    obtain ⟨entry,chosen,same⟩ := List.mem_map.mp member
    obtain ⟨listed,both⟩ := List.mem_filter.mp chosen
    obtain ⟨dynamic,changed⟩ := (Bool.and_eq_true ..).mp both
    rw [← same]
    refine List.mem_filter.mpr ⟨?_,dynamic⟩
    exact (mem_computeDiff_iff regular regular' listed).mpr (by simpa using changed)

end

/-! ### Setting the variables -/

section
variable {d : Deployment} {content : Databag}

/-- Every key is found and set. -/
theorem applyEach_run {script : Script Call Reply Exn} (succeeds : ∀ c n, ∃ a, script.reply c n = .ok a)
    {keys : List String} (present : ∀ key ∈ keys, content.lookup key ≠ none) (s : Scene (List Char) Call) :
    run (respond d.rules script) (ConfigHelper.applyEach content keys) s =
      (.ok (),⟨s.world,s.log ++ keys.map fun key =>
        .setVariable .own (variableOf key) ((content.lookup key).getD "")⟩) := by
  induction keys generalizing s with
  | nil => simp [ConfigHelper.applyEach]
  | cons key rest ih =>
    obtain ⟨value,found⟩ := Option.ne_none_iff_exists'.mp (present key (List.mem_cons_self ..))
    have later := ih fun other member => present other (List.mem_cons_of_mem _ member)
    have call : ∀ s : Scene (List Char) Call, respond d.rules script s (.setVariable .own (variableOf key) value) =
        (.ok (),⟨s.world,s.log ++ [.setVariable .own (variableOf key) value]⟩) := by
      intro s
      obtain ⟨a,reply⟩ := succeeds (.setVariable .own (variableOf key) value)
        (s.log.count (.setVariable .own (variableOf key) value))
      simp only [respond,reply]
      rfl
    have value_ : ConfigHelper.valueAt content key = pure value := by simp [ConfigHelper.valueAt,found]
    rw [ConfigHelper.applyEach,value_,run_bind,run_pure]
    simp only [ConfigManager.updateDynamicVar,InstanceClient.updateVariable,run_bind,ask,run_perform,call,later]
    simp [found]

/-- A key that is missing ends the run, whatever comes before it. -/
theorem applyEach_raises {script : Script Call Reply Exn} (succeeds : ∀ c n, ∃ a, script.reply c n = .ok a)
    {keys : List String} (missing : ∃ key ∈ keys, content.lookup key = none) (s : Scene (List Char) Call) :
    ∃ key, (run (respond d.rules script) (ConfigHelper.applyEach content keys) s).1 = .error ⟨.lookupError,key⟩ := by
  induction keys generalizing s with
  | nil =>
    obtain ⟨_,member,_⟩ := missing
    cases member
  | cons key rest ih =>
    cases found : content.lookup key with
    | none =>
      refine ⟨key,?_⟩
      have raises : ConfigHelper.valueAt content key = raise ⟨.lookupError,key⟩ := by simp [ConfigHelper.valueAt,found]
      rw [ConfigHelper.applyEach,raises]
      rfl
    | some value =>
      obtain ⟨other,member,none_⟩ := missing
      have later : ∃ key ∈ rest, content.lookup key = none := by
        rcases List.mem_cons.mp member with rfl | inRest
        · rw [found] at none_
          cases none_
        · exact ⟨other,inRest,none_⟩
      have present : ∀ other ∈ [key], content.lookup other ≠ none := by
        intro other member
        rw [List.mem_singleton.mp member,found]
        simp
      have first := @applyEach_run d content script succeeds [key] present s
      obtain ⟨missed,raises⟩ := ih later (run (respond d.rules script) (ConfigHelper.applyEach content [key]) s).2
      refine ⟨missed,?_⟩
      have split_ : ConfigHelper.applyEach content (key :: rest) =
          (ConfigHelper.applyEach content [key] >>= fun _ => ConfigHelper.applyEach content rest) := by
        simp [ConfigHelper.applyEach]
      rw [split_,run_bind,first]
      rw [first] at raises
      exact raises

/-- Where every key is found, a lookup error is one of a call. -/
theorem relays_applyEach {keys : List String} (present : ∀ key ∈ keys, content.lookup key ≠ none) :
    Relays (fun e : Exn => e.cls = .lookupError) (ConfigHelper.applyEach content keys) := by
  induction keys with
  | nil => trivial
  | cons key rest ih =>
    obtain ⟨value,found⟩ := Option.ne_none_iff_exists'.mp (present key (List.mem_cons_self ..))
    have value_ : ConfigHelper.valueAt content key = pure value := by simp [ConfigHelper.valueAt,found]
    rw [ConfigHelper.applyEach,value_]
    refine relays_bind trivial fun value => relays_bind (relays_perform _) fun _ => ?_
    exact ih fun other member => present other (List.mem_cons_of_mem _ member)

end

/-! ### The whole change -/

section
variable {ch : Change}

theorem readBack_file (ch : Change) : readBack ch.file = some ch.configOld := by
  obtain ⟨text,writes,reads,_⟩ := survives_configFor ch.new.charm.substrate ch.before ch.address ch.memory
  have same : ch.file = text := by
    rw [Change.file,Change.configOld,writes]
    rfl
  rw [same]
  exact reads

theorem regular_configOld (ch : Change) : Regular ch.configOld := regular_texts ..

theorem regular_configNew (ch : Change) : Regular ch.configNew := regular_texts ..

/-- The keys of a configuration depend on the audit plugin alone. -/
def keysOf (audit : Bool) : List String :=
  (configFor .vm ⟨none,.test,none,1,.all,audit,.async⟩ "" 0).map Prod.fst

theorem keys_texts (s : Substrate) (c : CharmConfig) (address : String) (memory : Int) :
    (texts (configFor s c address memory)).map Prod.fst = keysOf c.pluginAuditEnabled := by
  rw [keysOf,← configFor_keys s c address memory]
  simp [texts]

theorem covers_of_keepsAudit (keeps : ch.KeepsAudit) :
    ∀ key ∈ filterStaticKeys (ch.configOld.map Prod.fst), key ∈ ch.configNew.map Prod.fst := by
  have more : ∀ audit, ∀ key ∈ keysOf false, key ∈ keysOf audit := by decide +kernel
  rw [Change.configOld,Change.configNew,Deployment.serverConfig,keys_texts,keys_texts]
  intro key member
  have listed := (List.mem_filter.mp member).1
  cases before : ch.before.pluginAuditEnabled with
  | false =>
    rw [before] at listed
    exact more _ key listed
  | true =>
    rw [before] at listed
    rw [keeps before]
    exact listed

/-- A key of the plugin that can be set at run time is in the old configuration alone. -/
theorem missing_of_disabled (disabled : ¬ ch.KeepsAudit) :
    ∃ key ∈ filterStaticKeys (computeDiff ch.configOld ch.configNew), ch.configNew.lookup key = none := by
  obtain ⟨before,after⟩ := Classical.not_imp.mp disabled
  have after : ch.new.config.pluginAuditEnabled = false := by simpa using after
  have old : ch.configOld.map Prod.fst = keysOf true := by rw [Change.configOld,keys_texts,before]
  have new : ch.configNew.map Prod.fst = keysOf false := by
    rw [Change.configNew,Deployment.serverConfig,keys_texts,after]
  have alone : "loose-audit_log_filter.file" ∈ filterStaticKeys
      ((keysOf true).filter fun key => !(keysOf false).contains key) := by decide +kernel
  have absent : "loose-audit_log_filter.file" ∉ ch.configNew.map Prod.fst := by
    rw [new]
    decide +kernel
  refine ⟨"loose-audit_log_filter.file",?_,?_⟩
  · obtain ⟨listed,dynamic⟩ := List.mem_filter.mp alone
    refine List.mem_filter.mpr ⟨List.mem_append_left _ (List.mem_append_left _ ?_),dynamic⟩
    rw [old,new]
    exact listed
  · refine List.lookup_eq_none_iff.mpr fun entry member => ?_
    have other : "loose-audit_log_filter.file" ≠ entry.1 := fun same => absent (same ▸ List.mem_map_of_mem member)
    simpa using other

/-- What is set at run time is found where the plugin is not switched off. -/
theorem present_of_keepsAudit (keeps : ch.KeepsAudit) :
    ∀ key ∈ ch.order.arrange (filterStaticKeys (computeDiff ch.configOld ch.configNew)),
      ch.configNew.lookup key ≠ none := by
  intro key member
  have listed := mem_of_filtered (covers_of_keepsAudit keeps) ((ch.order.perm _).mem_iff.mp member)
  obtain ⟨entry,inNew,same⟩ := List.mem_map.mp listed
  rw [← same,lookup_of_mem (regular_configNew ch) inNew]
  nofun

/-- Both configurations, with the file of the new one written. -/
def configs (ch : Change) : Hook (Databag × Databag) := do
  let configOld ← ConfigHelper.loadConfig
  let configNew ← ConfigHelper.saveConfig ch.new.charm ch.new.config
  pure (configOld,configNew)

/-- What follows once both configurations are known. -/
def rest (ch : Change) : Hook Unit := do
  ConfigHelper.applyConfig ch.order ch.configOld ch.configNew
  let restart := ConfigHelper.checkRestart ch.configOld ch.configNew
  if (← initialized ch.new.charm) && restart then ask (.requestLock "restart")

/-- The run up to the new configuration, and what follows it. -/
theorem outcome_run (ch : Change) (script : Script Call Reply Exn) :
    (∃ e c n, script.reply c n = .error e ∧ ((ch.outcome script).1 = .ok () ∨ (ch.outcome script).1 = .error e)) ∨
      ∃ s, (∀ c ∈ s.log, applies c = false) ∧ ch.outcome script = run (respond ch.new.rules script) (rest ch) s := by
  have led : Settled [ch.file,ch.new.file] (run (respond ch.new.rules script) (configs ch) ⟨ch.file,[]⟩).2 ∧
      Gives script (ch.configOld,ch.configNew) (run (respond ch.new.rules script) (configs ch) ⟨ch.file,[]⟩).1 :=
    @leads_configs ch.new script ch.file ch.configOld (readBack_file ch) ⟨ch.file,[]⟩ ⟨List.mem_singleton.mpr rfl,nofun⟩
  have whole : ch.outcome script = run (respond ch.new.rules script) ((configs ch).tryElse Exn.isFileNotFound
      (fun _ => pure ()) fun configs => do
        ConfigHelper.applyConfig ch.order configs.1 configs.2
        let restart := ConfigHelper.checkRestart configs.1 configs.2
        if (← initialized ch.new.charm) && restart then ask (.requestLock "restart")) ⟨ch.file,[]⟩ := rfl
  rw [whole,tryElse,run_handle]
  rcases ended : run (respond ch.new.rules script) (configs ch) ⟨ch.file,[]⟩ with ⟨e | configs,s⟩ <;> rw [ended] at led
  · obtain ⟨_,c,n,reply⟩ := led
    refine .inl ⟨e,c,n,reply,?_⟩
    by_cases caught : e.isFileNotFound = true
    · exact .inl (by simp [caught])
    · exact .inr (by simp [caught])
  · obtain ⟨settled,same⟩ := led
    cases same
    exact .inr ⟨s,settled.2,rfl⟩

theorem relays_initialized (charm : Charm) : Relays (fun e : Exn => e.cls = .lookupError) (initialized charm) := by
  refine relays_bind ?_ fun running => ?_
  · cases charm.substrate with
    | vm =>
      refine relays_bind (relays_perform _) fun present => ?_
      split
      · exact relays_perform _
      · trivial
    | k8s =>
      refine relays_bind (relays_perform _) fun connected => ?_
      split
      · refine relays_bind (relays_perform _) fun found => ?_
        cases found <;> trivial
      · trivial
  · split
    · refine relays_tryElse ?_ (fun _ => trivial) fun labels => relays_bind ?_ fun _ => trivial
      · exact relays_tryElse (relays_perform _) (fun _ => trivial) (fun _ => trivial)
      · exact relays_bind (relays_perform _) fun _ => trivial
    · trivial

theorem answer_fine {d : Deployment} {script : Script Call Reply Exn}
    (fine : ∀ c n e, script.reply c n = .error e → e.cls ≠ .lookupError) (s : Scene (List Char) Call) (c : Call)
    (e : Exn) (raises : (respond d.rules script s c).1 = .error e) : e.cls ≠ .lookupError := by
  have answered : d.rules.answer s.world c (script.reply c (s.log.count c)) = .error e := raises
  cases reply : script.reply c (s.log.count c) with
  | error e' =>
    rw [reply] at answered
    have same : e' = e := by
      cases c <;> exact Except.error.inj answered
    exact same ▸ fine c _ e' reply
  | ok b =>
    rw [reply] at answered
    cases c with
    | readServerConfig =>
      simp only [Deployment.rules] at answered
      split at answered
      · cases answered
      · cases answered
        simp
    | writeServerConfig content =>
      simp only [Deployment.rules] at answered
      split at answered
      · cases answered
      · cases answered
        simp
    | _ => cases answered

theorem lookups_of_keepsAudit (keeps : ch.KeepsAudit) {script : Script Call Reply Exn}
    (fine : ∀ c n e, script.reply c n = .error e → e.cls ≠ .lookupError) {e : Exn}
    (raises : (ch.outcome script).1 = .error e) : e.cls ≠ .lookupError := by
  rcases outcome_run ch script with ⟨e',c,n,reply,ended⟩ | ⟨s,_,same⟩
  · rcases ended with returned | raised
    · rw [returned] at raises
      cases raises
    · rw [raised] at raises
      cases raises
      exact fine c n e reply
  · have relays : Relays (fun e : Exn => e.cls = .lookupError) (rest ch) := by
      refine relays_bind (relays_applyEach (present_of_keepsAudit keeps)) fun _ => ?_
      refine relays_bind (relays_initialized _) fun ready => ?_
      split
      · exact relays_perform _
      · trivial
    rw [same] at raises
    exact run_relays (answer_fine fine) relays s raises

def setsVariable : Call → Bool
  | .setVariable _ _ _ => true
  | _ => false

theorem updates_concat (log : List Call) {c : Call} (other : ¬ setsVariable c = true) :
    updates (log ++ [c]) = updates log := by
  have none_ : updates [c] = [] := by cases c <;> first | rfl | exact absurd rfl other
  rw [updates,List.filterMap_append]
  exact (congrArg (updates log ++ ·) none_).trans (List.append_nil _)

/-- Nothing but the variables of the difference is set. -/
theorem updates_of_keepsAudit (keeps : ch.KeepsAudit) {script : Script Call Reply Exn}
    (succeeds : ∀ c n, ∃ a, script.reply c n = .ok a) :
    updates (ch.outcome script).2.log =
      (ch.order.arrange (filterStaticKeys (computeDiff ch.configOld ch.configNew))).map
        fun key => (variableOf key,(ch.configNew.lookup key).getD "") := by
  rcases outcome_run ch script with ⟨e,c,n,reply,_⟩ | ⟨s,silent,same⟩
  · obtain ⟨a,answered⟩ := succeeds c n
    rw [answered] at reply
    cases reply
  · have before : updates s.log = [] := by
      refine List.filterMap_eq_nil_iff.mpr fun c member => ?_
      have quietly := silent c member
      cases c <;> first | rfl | cases quietly
    have applied := applyEach_run (d := ch.new) succeeds (present_of_keepsAudit keeps) s
    have after : Avoids (fun c => setsVariable c = true)
        (do if (← initialized ch.new.charm) && ConfigHelper.checkRestart ch.configOld ch.configNew then
              ask (.requestLock "restart") : Hook Unit) := by
      refine avoids_bind (avoids_mono (fun c sets => ?_) (quiet_initialized ch.new.charm)) fun ready => ?_
      · cases c <;> first | rfl | cases sets
      · exact avoids_ite _ (fun _ => avoids_ask nofun) (fun _ => trivial)
    have kept (u : List (String × String)) := @run_frame _ _ _ _ _ _ ch.new.rules script (fun s => updates s.log = u)
      _ (fun s _ _ _ other before => (updates_concat s.log other).trans before) _ after
    rw [same,rest,ConfigHelper.applyConfig,run_bind,applied]
    refine kept _ _ ?_
    rw [updates,List.filterMap_append]
    rw [updates] at before
    simp [before,List.filterMap_map]

theorem total_of_keepsAudit (keeps : ch.KeepsAudit) : ch.Total where
  lookups _ fine _ raises := lookups_of_keepsAudit keeps fine raises
  updates answers := by
    rw [updates_of_keepsAudit keeps fun c n => ⟨answers c n,rfl⟩]
    have set_ := (ch.order.perm _).trans
      (filtered_perm (regular_configOld ch) (regular_configNew ch) (covers_of_keepsAudit keeps))
    have values : (ch.changed.map Prod.fst).map (fun key => (variableOf key,(ch.configNew.lookup key).getD "")) =
        ch.changed.map fun entry => (variableOf entry.1,entry.2) := by
      rw [List.map_map]
      refine List.map_congr_left fun entry member => ?_
      have listed : entry ∈ ch.configNew := (List.mem_filter.mp member).1
      simp [lookup_of_mem (regular_configNew ch) listed]
    rw [← values]
    exact set_.map _

/-- Switching the plugin off ends in a lookup error, after the file has been replaced. -/
theorem lookupError_of_disabled (disabled : ¬ ch.KeepsAudit) {script : Script Call Reply Exn}
    (succeeds : ∀ c n, ∃ a, script.reply c n = .ok a) :
    ∃ key, (ch.outcome script).1 = .error ⟨.lookupError,key⟩ := by
  rcases outcome_run ch script with ⟨e,c,n,reply,_⟩ | ⟨s,_,same⟩
  · obtain ⟨a,answered⟩ := succeeds c n
    rw [answered] at reply
    cases reply
  · obtain ⟨key,member,missing⟩ := missing_of_disabled disabled
    obtain ⟨missed,raises⟩ := applyEach_raises (d := ch.new) succeeds
      ⟨key,(ch.order.perm _).mem_iff.mpr member,missing⟩ s
    refine ⟨missed,?_⟩
    rw [same,rest,ConfigHelper.applyConfig,run_bind]
    rcases ended : run (respond ch.new.rules script) (ConfigHelper.applyEach ch.configNew _) s with ⟨e | u,s'⟩ <;>
      rw [ended] at raises
    · exact raises
    · cases raises

theorem not_total_of_disabled (disabled : ¬ ch.KeepsAudit) : ¬ ch.Total := by
  intro total
  obtain ⟨key,raises⟩ := @lookupError_of_disabled ch disabled ⟨fun _ _ => .ok default,fun _ _ => true⟩
    fun _ _ => ⟨_,rfl⟩
  exact total.lookups _ (fun _ _ _ failed => by cases failed) _ raises rfl

end

/-- A change is applied key by key exactly when it does not switch the audit plugin
    off. -/
theorem total_iff (ch : Change) : ch.Total ↔ ch.KeepsAudit :=
  ⟨fun total => Classical.not_not.mp fun disabled => not_total_of_disabled disabled total,total_of_keepsAudit⟩

/-- A machine on which the plugin is switched off, and nothing else is changed. -/
def switchedOff : Change where
  new := ⟨machine.charm,weekly,none,"",0,⟨"",nofun⟩,rfl⟩
  before := { weekly with pluginAuditEnabled := true }
  accepted := by decide
  address := ⟨"",nofun⟩
  memory := 0
  order := ⟨id,List.Perm.refl⟩

theorem switchedOff_fails : ¬ switchedOff.Total := by
  refine not_total_of_disabled fun keeps => ?_
  cases keeps rfl

end MysqlOperators.Reconfiguration
