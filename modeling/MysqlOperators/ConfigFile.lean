import MysqlOperators.Drift
import MysqlOperators.Ini
import MysqlOperators.Scripted

/-!
The custom configuration file as the text that `write_server_config` leaves and
`read_server_config` finds, and the config-changed hooks that run on it. What a hook
compares with is what it has read, so the round trip decides what it applies.
-/
namespace MysqlOperators.ConfigFile
open MysqlOperators.Program MysqlOperators.Program.Prog MysqlOperators.External MysqlOperators.Clients
open MysqlOperators.Workload MysqlOperators.Helpers MysqlOperators.Scripted MysqlOperators.Config MysqlOperators.Quiet
open MysqlOperators.Drift
open MysqlOperators.Ini (PlainKey PlainValue PlainName)
open MysqlOperators.Config.ConfigManager (texts computeDiff)

/-! ### The file -/

def chars (content : Databag) : List Ini.Entry := content.map (fun entry => (entry.1.toList,entry.2.toList))

def strings (entries : List Ini.Entry) : Databag :=
  entries.map (fun entry => (String.ofList entry.1,String.ofList entry.2))

@[simp] theorem strings_chars (content : Databag) : strings (chars content) = content := by
  simp [strings,chars,Function.comp_def]

/-- The text that `write_server_config` writes. -/
def written (content : Databag) : Option (List Char) := Ini.write "mysqld".toList (chars content)

/-- What `read_server_config` makes of a text. -/
def readBack (text : List Char) : Option Databag := (Ini.read text "mysqld".toList).map strings

/-- A path as it stands in a configuration. -/
structure Path where
  text : String
  absolute : text.toList.head? = some '/'
  oneLine : '\n' ∉ text.toList ∧ '\r' ∉ text.toList
  solid : ∀ c ∈ text.toList.getLast?, Python.isSpace c = false

/-- An address, or nothing where there is none. -/
structure Address where
  text : String
  solid : ∀ c ∈ text.toList, Python.isSpace c = false

def pathKeys : List String :=
  ["datadir","general_log_file","log_bin","log_bin_index","log_error","slow_query_log_file","innodb_log_group_home_dir",
   "innodb_temp_tablespaces_dir","innodb_undo_directory","loose-audit_log_filter.file"]

/-- A configuration on another file system. -/
def located (paths : String → Path) (config : ServerConfig) : ServerConfig :=
  config.map (fun entry => if entry.1 ∈ pathKeys then (entry.1,.text (paths entry.1).text) else entry)

/-- What is written is read back, and differs in no key. -/
def Survives (config : ServerConfig) : Prop :=
  ∃ text, written (texts config) = some text ∧ readBack text = some (texts config) ∧
    ∀ old, readBack text = some old → computeDiff old (texts config) = []

/-! ### What configurations consist of -/

def Plain (config : ServerConfig) : Prop := ∀ entry ∈ config, PlainValue entry.2.str.toList

/-- A text without blanks. -/
def Solid (text : String) : Prop := ∀ c ∈ text.toList, Python.isSpace c = false

theorem solid_ofList {text : List Char} (solid : text.all (fun c => !Python.isSpace c) = true) :
    Solid (String.ofList text) := by
  intro c member
  rw [String.toList_ofList] at member
  simpa using List.all_eq_true.mp solid c member

theorem solid_append {first second : String} (solid : Solid first) (solid' : Solid second) :
    Solid (first ++ second) := by
  intro c member
  rw [String.toList_append] at member
  rcases List.mem_append.mp member with inFirst | inSecond
  · exact solid c inFirst
  · exact solid' c inSecond

theorem plain_of_solid {value : String} (solid : Solid value) : PlainValue value.toList := by
  refine ⟨fun member => ?_,fun c first => solid c (List.mem_of_mem_head? first),fun c last => ?_⟩
  · cases solid _ member
  · exact solid c (List.mem_of_getLast? last)

theorem plain_chars {text : List Char} (solid : text.all (fun c => !Python.isSpace c) = true) :
    PlainValue (String.ofList text).toList := plain_of_solid (solid_ofList solid)

theorem plainKey_ofList {key : List Char} (plain : Ini.plainKey key = true) :
    PlainKey (String.ofList key).toList := by
  rw [String.toList_ofList]
  exact Ini.plain_of_plainKey plain

theorem plain_int (n : Int) : PlainValue (Value.int n).str.toList := by
  have digits (m : Nat) : Solid (toString m) := by
    intro c member
    rw [Nat.toString_eq_repr,Nat.toList_repr] at member
    have digit : c.isDigit = true := Nat.isDigit_of_mem_toDigits (by decide) (by decide) member
    simp only [Char.isDigit,Bool.and_eq_true,decide_eq_true_eq,UInt32.le_iff_toNat_le] at digit
    have bounds : 48 ≤ c.toNat ∧ c.toNat ≤ 57 := digit
    simp only [Python.isSpace,Bool.or_eq_false_iff,Bool.and_eq_false_iff,decide_eq_false_iff_not]
    omega
  apply plain_of_solid
  cases n with
  | ofNat m => exact digits m
  | negSucc m => exact solid_append (solid_ofList rfl) (digits (m+1))

theorem plain_path (path : Path) : PlainValue path.text.toList := by
  refine ⟨path.oneLine.1,fun c first => ?_,path.solid⟩
  rw [path.absolute] at first
  cases first
  decide

theorem plainKey_configFor (s : Substrate) (c : CharmConfig) (address : String) (memory : Int) :
    ∀ entry ∈ configFor s c address memory, PlainKey entry.1.toList := by
  have keys : ∀ key ∈ (baseConfig .vm 1 "" ++ getTestingConfig .vm none ++ passwordConfig ++
      auditConfig .vm .json .all .async).map Prod.fst, PlainKey key.toList := by
    simp only [baseConfig,getTestingConfig,passwordConfig,auditConfig,List.cons_append,List.nil_append,List.map_cons,
      List.map_nil,List.forall_mem_cons]
    repeat' apply And.intro
    all_goals first | exact plainKey_ofList rfl | simp
  intro entry member
  have key : entry.1 ∈ (configFor s c address memory).map Prod.fst := List.mem_map_of_mem member
  rw [configFor_keys] at key
  refine keys entry.1 ?_
  cases audit : c.pluginAuditEnabled with
  | false =>
    rw [audit] at key
    have key : entry.1 ∈ (baseConfig .vm 1 "" ++ getTestingConfig .vm none ++ passwordConfig ++ []).map Prod.fst := key
    rw [List.append_nil] at key
    rw [List.map_append]
    exact List.mem_append_left _ key
  | true =>
    rw [audit] at key
    exact key

section
variable (s : Substrate) (address : Address)

theorem solid_commonDir : Solid (commonDir s) := by
  cases s <;> exact solid_ofList rfl

theorem solid_logs : Solid (mysqlLogs s) := solid_append (solid_commonDir s) (solid_ofList rfl)

/-- A file in the directory of the logs. -/
theorem plain_log {name : List Char} (solid : name.all (fun c => !Python.isSpace c) = true) :
    PlainValue (mysqlLogs s ++ String.ofList name).toList :=
  plain_of_solid (solid_append (solid_logs s) (solid_ofList solid))

theorem plain_baseConfig (days : Int) : Plain (baseConfig s days address.text) := by
  have data : Solid (mysqlData s) := solid_append (solid_commonDir s) (solid_ofList rfl)
  have here := plain_of_solid address.solid
  simp only [Plain,baseConfig,List.forall_mem_cons,Value.str]
  refine ⟨plain_chars rfl,plain_int _,plain_of_solid data,plain_chars rfl,here,here,
    plain_chars rfl,plain_chars rfl,plain_chars rfl,plain_log s rfl,
    plain_log s rfl,plain_log s rfl,plain_log s rfl,plain_chars rfl,
    plain_log s rfl,plain_int _,nofun⟩

theorem plain_profileConfig (profile : Profile) (memory : Int) (maxConnections : Option Int) :
    Plain (profileConfig s profile memory maxConnections) := by
  have logs := plain_of_solid (solid_logs s)
  have temp : PlainValue (mysqlTemp s).toList :=
    plain_of_solid (solid_append (solid_commonDir s) (solid_ofList rfl))
  cases profile <;> simp only [Plain,profileConfig,getProductionConfig,getTestingConfig,List.forall_mem_cons] <;>
    exact ⟨plain_int _,plain_int _,logs,temp,logs,plain_int _,plain_chars rfl,plain_int _,nofun⟩

theorem plain_passwordConfig : Plain passwordConfig := by
  simp only [Plain,passwordConfig,List.forall_mem_cons]
  exact ⟨plain_chars rfl,plain_int _,plain_int _,plain_int _,plain_chars rfl,plain_int _,nofun⟩

theorem plain_auditConfig (format : AuditFormat) (policy : AuditPolicy) (strategy : AuditStrategy) :
    Plain (auditConfig s format policy strategy) := by
  simp only [Plain,auditConfig,List.forall_mem_cons]
  refine ⟨plain_log s rfl,?_,?_,?_,nofun⟩
  · cases format <;> exact plain_chars rfl
  · cases policy <;> exact plain_chars rfl
  · cases strategy <;> exact plain_chars rfl

theorem plain_configFor (c : CharmConfig) (memory : Int) : Plain (configFor s c address.text memory) := by
  intro entry member
  rcases List.mem_append.mp member with others | audit
  · rcases List.mem_append.mp others with others | password
    · rcases List.mem_append.mp others with base | profile
      · exact plain_baseConfig s address _ entry base
      · exact plain_profileConfig s _ _ _ entry profile
    · exact plain_passwordConfig entry password
  · split at audit
    · exact plain_auditConfig s _ _ _ entry audit
    · cases audit

end

/-! ### The round trip -/

theorem located_keys (paths : String → Path) (config : ServerConfig) :
    (located paths config).map Prod.fst = config.map Prod.fst := by
  simp only [located,List.map_map]
  refine List.map_congr_left fun entry _ => ?_
  simp only [Function.comp_def]
  split <;> rfl

theorem plain_located (paths : String → Path) {config : ServerConfig} (plain : Plain config) :
    Plain (located paths config) := by
  intro entry member
  obtain ⟨entry',member',rfl⟩ := List.mem_map.mp member
  split
  · exact plain_path (paths entry'.1)
  · exact plain entry' member'

@[simp] theorem computeDiff_self (content : Databag) : computeDiff content content = [] := by
  simp [computeDiff]

theorem survives_of_plain {config : ServerConfig} (keys : ∀ entry ∈ config, PlainKey entry.1.toList)
    (plain : Plain config) (distinct : (config.map Prod.fst).Nodup) : Survives config := by
  have entries : ∀ entry ∈ chars (texts config), PlainKey entry.1 ∧ PlainValue entry.2 := by
    intro entry member
    obtain ⟨text,listed,rfl⟩ := List.mem_map.mp member
    obtain ⟨original,source,rfl⟩ := List.mem_map.mp listed
    exact ⟨keys original source,plain original source⟩
  have names : (chars (texts config)).map Prod.fst = (config.map Prod.fst).map String.toList := by
    simp [chars,texts]
  have different : ((chars (texts config)).map Prod.fst).Nodup := by
    rw [names]
    exact distinct.map fun _ _ same => String.toList_inj.mp same
  have named : PlainName "mysqld".toList := ⟨by decide,by decide⟩
  obtain ⟨text,writes,reads⟩ := Ini.read_write named entries different
  have back : readBack text = some (texts config) := by
    rw [readBack,reads,Option.map_some,strings_chars]
  refine ⟨text,writes,back,fun old same => ?_⟩
  rw [back] at same
  rw [← Option.some.inj same,computeDiff_self]

theorem survives_located (paths : String → Path) (s : Substrate) (c : CharmConfig) (address : Address) (memory : Int) :
    Survives (located paths (configFor s c address.text memory)) := by
  refine survives_of_plain (fun entry member => ?_) (plain_located paths (plain_configFor s address c memory)) ?_
  · have key : entry.1 ∈ (configFor s c address.text memory).map Prod.fst := by
      rw [← located_keys paths]
      exact List.mem_map_of_mem member
    obtain ⟨original,source,same⟩ := List.mem_map.mp key
    exact same ▸ plainKey_configFor s c address.text memory original source
  · rw [located_keys]
    exact configFor_keys_nodup s c address.text memory

theorem survives_configFor (s : Substrate) (c : CharmConfig) (address : Address) (memory : Int) :
    Survives (configFor s c address.text memory) :=
  survives_of_plain (plainKey_configFor s c address.text memory) (plain_configFor s address c memory)
    (configFor_keys_nodup s c address.text memory)

/-! ### Hooks on the file -/

/-- The address that a unit finds for itself, if it is populated. -/
def ownAddress (charm : Charm) (peers : Option PeersRelation) (hostname : String) : Option String :=
  match charm.substrate with
  | .vm => some (peerAddress charm peers relationPeers charm.unit)
  | .k8s =>
    if Python.occursIn (getUnitLabel charm charm.unit ++ "." ++ charm.appName ++ "-endpoints").toList hostname.toList
    then some hostname else none

/-- A unit with its settings, and what its address and its memory are read from. -/
structure Deployment where
  charm : Charm
  config : CharmConfig
  peers : Option PeersRelation
  hostname : String
  memory : Nat
  address : Address
  populated : ownAddress charm peers hostname = some address.text

namespace Deployment
variable (d : Deployment)

def serverConfig : ServerConfig := configFor d.charm.substrate d.config d.address.text d.memory

/-- A text that cannot be parsed, or that has no section, raises; so does a dictionary
    that cannot be written. -/
def rules : Rules (List Char) Call Reply Exn where
  answer text c r :=
    match c,r with
    | .readServerConfig, .ok _ =>
      match readBack text with
      | some content => .ok content
      | none => .error ⟨.otherException,"mysqld"⟩
    | .writeServerConfig content, .ok _ =>
      if (written content).isSome then .ok () else .error ⟨.otherException,"mysqld"⟩
    | .peersRelation, .ok _ => .ok d.peers
    | .hostname _, .ok _ => .ok d.hostname
    | .memory, .ok _ => .ok d.memory
    | _, r => r
  effect text c r happened :=
    match c,r with
    | .writeServerConfig content, .ok _ => (written content).getD text
    | .writeServerConfig content, .error _ => if happened then (written content).getD text else text
    | _, _ => text

/-- The settings are saved, and the file is loaded again. -/
def saveAndLoad : Hook (Databag × Databag) := do
  let saved ← ConfigHelper.saveConfig d.charm d.config
  let loaded ← ConfigHelper.loadConfig
  pure (saved,loaded)

/-- The file that the settings lead to. -/
def file : List Char := (written (texts d.serverConfig)).getD []

/-- Config-changed hooks one after the other, each with its outcomes and its order of
    keys: the file that they leave, and all calls that they make. -/
def hooks (text : List Char) : List (SetOrder × Script Call Reply Exn) → List Char × List Call
  | [] => (text,[])
  | (order,script) :: rest =>
    let scene := (play d.rules script (onConfigChanged d.charm order d.config) text).2
    let later := hooks scene.world rest
    (later.1,scene.log ++ later.2)

end Deployment

/-- Calls that set a variable or request a restart. -/
def applies : Call → Bool
  | .setVariable _ _ _ | .requestLock _ => true
  | _ => false

/-- The file is one of some, and nothing has been applied. -/
def Settled (files : List (List Char)) (s : Scene (List Char) Call) : Prop :=
  s.world ∈ files ∧ ∀ c ∈ s.log, applies c = false

/-- The result is known, unless a call has raised. -/
def Gives {α : Type} (script : Script Call Reply Exn) (a : α) : Except Exn α → Prop
  | .ok b => b = a
  | .error e => ∃ c n, script.reply c n = .error e

/-- A map is written, and the file is read again. -/
def writeAndRead (config : ServerConfig) : Hook Databag := do
  ConfigManager.writeServerConfig config
  ConfigManager.readServerConfig

/-- What ends with a result ends with this one and leaves this file; otherwise a call has raised. -/
def Leaves {α : Type} (script : Script Call Reply Exn) (a : α) (file : List Char)
    (run : Except Exn α × Scene (List Char) Call) : Prop :=
  Gives script a run.1 ∧ (run.1.isOk = true → run.2.world = file)

section
variable {d : Deployment} {script : Script Call Reply Exn} {files : List (List Char)}

theorem file_spec (d : Deployment) :
    written (texts d.serverConfig) = some d.file ∧ readBack d.file = some (texts d.serverConfig) := by
  obtain ⟨text,writes,reads,_⟩ := survives_configFor d.charm.substrate d.config d.address d.memory
  have same : d.file = text := by
    rw [Deployment.file,Deployment.serverConfig,writes]
    rfl
  rw [same]
  exact ⟨writes,reads⟩

theorem settled_after {s : Scene (List Char) Call} (settled : Settled files s) {c : Call} (silent : applies c = false)
    {r : Except Exn (Reply c)} {happened : Bool} {files' : List (List Char)}
    (listed : d.rules.effect s.world c r happened ∈ files') : Settled files' (s.after d.rules c r happened) := by
  refine ⟨listed,fun other member => ?_⟩
  rcases List.mem_append.mp member with earlier | last
  · exact settled.2 other earlier
  · rw [List.mem_singleton.mp last]
    exact silent

theorem settled_frame (s : Scene (List Char) Call) (c : Call) (r : Except Exn (Reply c)) (happened : Bool)
    (other : ¬ Loud c) (settled : Settled files s) : Settled files (s.after d.rules c r happened) := by
  have quietly : quiet c = true := by simpa [Loud] using other
  have silent : applies c = false := by cases c <;> first | rfl | cases quietly
  have same : d.rules.effect s.world c r happened = s.world := by cases c <;> first | rfl | cases quietly
  refine settled_after settled silent ?_
  rw [same]
  exact settled.1

/-- A call whose answer is known. -/
theorem leads_ask {c : Call} (a : Reply c) (silent : applies c = false)
    (same : ∀ text r happened, d.rules.effect text c r happened = text)
    (answers : ∀ text ∈ files, ∀ b, d.rules.answer text c (.ok b) = .ok a)
    (raises : ∀ text e, d.rules.answer text c (.error e) = .error e) :
    Leads d.rules script (Settled files) (ask c) (fun r s => Settled files s ∧ Gives script a r) := by
  refine leads_perform fun s n r happened settled answered => ?_
  have listed : d.rules.effect s.world c r happened ∈ files := by
    rw [same]
    exact settled.1
  refine ⟨settled_after settled silent listed,?_⟩
  cases reply : script.reply c n with
  | ok b =>
    rw [answered,reply,answers _ settled.1]
    rfl
  | error e =>
    rw [answered,reply,raises]
    exact ⟨c,n,reply⟩

theorem leads_address : Leads d.rules script (Settled files) (getUnitAddress d.charm d.charm.unit relationPeers)
    (fun r s => Settled files s ∧ Gives script d.address.text r) := by
  have populated := d.populated
  unfold getUnitAddress ownAddress at *
  cases substrate : d.charm.substrate with
  | vm =>
    rw [substrate] at populated
    refine leads_bind (leads_ask d.peers rfl (fun _ _ _ => rfl) (fun _ _ _ => rfl) (fun _ _ => rfl)) (fun p => ?_)
      (fun _ _ after => after)
    refine leads_assuming fun same => ?_
    cases same
    cases peers : d.peers with
    | none =>
      refine leads_ret fun s settled => ⟨settled,?_⟩
      simpa [peers,Gives,peerAddress] using populated
    | some relation =>
      simp only [if_true]
      refine leads_ret fun s settled => ⟨settled,?_⟩
      simpa [peers,Gives,peerAddress,getUnitAddress_getD] using populated
  | k8s =>
    rw [substrate] at populated
    refine leads_bind (leads_ask d.hostname rfl (fun _ _ _ => rfl) (fun _ _ _ => rfl) (fun _ _ => rfl)) (fun h => ?_)
      (fun _ _ after => after)
    refine leads_assuming fun same => ?_
    cases same
    change (if _ then some d.hostname else none) = _ at populated
    by_cases found : Python.occursIn
        (getUnitLabel d.charm d.charm.unit ++ "." ++ d.charm.appName ++ "-endpoints").toList d.hostname.toList = true
    · rw [if_pos found] at populated ⊢
      exact leads_ret fun s settled => ⟨settled,Option.some.inj populated⟩
    · rw [if_neg found] at populated
      cases populated

theorem leads_load {text : List Char} {old : Databag} (reads : readBack text = some old) :
    Leads d.rules script (Settled [text]) ConfigHelper.loadConfig
      (fun r s => Settled [text] s ∧ Gives script old r) := by
  refine leads_ask (c := .readServerConfig) old rfl (fun _ _ _ => rfl) (fun text' member _ => ?_) (fun _ _ => rfl)
  rw [List.mem_singleton.mp member]
  simp only [Deployment.rules,reads]

theorem leads_write {text file : List Char} {config : ServerConfig} (writes : written (texts config) = some file) :
    Leads d.rules script (Settled [text]) (ConfigManager.writeServerConfig config)
      (fun r s => Settled [text,file] s ∧ Leaves script () file (r,s)) := by
  refine leads_perform fun s n r happened settled answered => ?_
  have before : s.world = text := List.mem_singleton.mp settled.1
  cases reply : script.reply (.writeServerConfig (texts config)) n with
  | ok _ =>
    rw [reply] at answered
    simp only [Deployment.rules,writes,Option.isSome_some,if_true] at answered
    rw [answered]
    refine ⟨settled_after settled rfl ?_,rfl,fun _ => ?_⟩
    · simp [Deployment.rules,writes]
    · simp [Scene.after,Deployment.rules,writes]
  | error e =>
    rw [reply] at answered
    have answered : r = .error e := answered
    rw [answered]
    refine ⟨settled_after settled rfl ?_,⟨_,n,reply⟩,fun ok => by cases ok⟩
    cases happened <;> simp [Deployment.rules,writes,before]

/-- Whatever the file was, what has been written is read. -/
theorem leads_writeAndRead {text file : List Char} {config : ServerConfig} (writes : written (texts config) = some file)
    (reads : readBack file = some (texts config)) : Leads d.rules script (Settled [text]) (writeAndRead config)
      (fun r s => Leaves script (texts config) file (r,s)) := by
  refine leads_bind (leads_write writes) (fun _ s after => ?_) (fun _ _ after => after.2)
  have settled : Settled [file] s := ⟨List.mem_singleton.mpr (after.2.2 rfl),after.1.2⟩
  have loaded := @leads_load d script file (texts config) reads s settled
  exact ⟨loaded.2,fun _ => List.mem_singleton.mp loaded.1.1⟩

theorem leads_save {text : List Char} :
    Leads d.rules script (Settled [text]) (ConfigHelper.saveConfig d.charm d.config)
      (fun r s => Settled [text,d.file] s ∧ Leaves script (texts d.serverConfig) d.file (r,s)) := by
  have more {s : Scene (List Char) Call} (settled : Settled [text] s) : Settled [text,d.file] s :=
    ⟨List.mem_cons.mpr (.inl (List.mem_singleton.mp settled.1)),settled.2⟩
  refine leads_bind leads_address (fun address => leads_assuming fun same => ?_)
    (fun _ _ after => ⟨more after.1,after.2,fun ok => by cases ok⟩)
  refine leads_bind (leads_ask (c := .memory) d.memory rfl (fun _ _ _ => rfl) (fun _ _ _ => rfl) (fun _ _ => rfl))
    (fun memory => leads_assuming fun known => ?_) (fun _ _ after => ⟨more after.1,after.2,fun ok => by cases ok⟩)
  cases same
  cases known
  exact leads_bind (leads_write (file_spec d).1) (fun _ => leads_ret fun _ after => ⟨after.1,rfl,fun _ => after.2.2 rfl⟩)
    (fun _ _ after => ⟨after.1,after.2.1,fun ok => by cases ok⟩)

/-- Whatever the file was, what has been saved is loaded. -/
theorem leads_saveAndLoad {text : List Char} :
    Leads d.rules script (Settled [text]) d.saveAndLoad
      (fun r s => Leaves script (texts d.serverConfig,texts d.serverConfig) d.file (r,s)) := by
  have loads : Leads d.rules script (Settled [d.file])
      (do let loaded ← ConfigHelper.loadConfig
          pure (texts d.serverConfig,loaded) : Hook (Databag × Databag))
      (fun r s => Leaves script (texts d.serverConfig,texts d.serverConfig) d.file (r,s)) := by
    refine leads_bind (leads_load (file_spec d).2) (fun loaded => leads_assuming fun same => ?_)
      (fun _ _ after => ⟨after.2,fun ok => by cases ok⟩)
    cases same
    exact leads_ret fun _ settled => ⟨rfl,fun _ => List.mem_singleton.mp settled.1⟩
  refine leads_bind leads_save (fun saved s after => ?_) (fun _ _ after => ⟨after.2.1,fun ok => by cases ok⟩)
  have same : saved = texts d.serverConfig := after.2.1
  rw [same]
  exact loads s ⟨List.mem_singleton.mpr (after.2.2 rfl),after.1.2⟩

/-- Both configurations, after the file has been replaced. -/
theorem leads_configs {text : List Char} {old : Databag} (reads : readBack text = some old) :
    Leads d.rules script (Settled [text])
      (do let configOld ← ConfigHelper.loadConfig
          let configNew ← ConfigHelper.saveConfig d.charm d.config
          pure (configOld,configNew) : Hook (Databag × Databag))
      (fun r s => Settled [text,d.file] s ∧ Gives script (old,texts d.serverConfig) r) := by
  refine leads_bind (leads_load reads) (fun old' => leads_assuming fun same => ?_) (fun _ s after => ⟨?_,after.2⟩)
  · cases same
    refine leads_bind leads_save (fun new s after => ?_) (fun _ _ after => ⟨after.1,after.2.1⟩)
    have same : new = texts d.serverConfig := after.2.1
    exact ⟨after.1,congrArg (Prod.mk old) same⟩
  · exact ⟨List.mem_cons.mpr (.inl (List.mem_singleton.mp after.1.1)),after.1.2⟩

/-- Without a difference nothing is to be applied. -/
theorem applyConfig_self (order : SetOrder) (content : Databag) :
    ConfigHelper.applyConfig order content content = pure () := by
  have none_ : order.arrange [] = [] := List.perm_nil.mp (order.perm [])
  rw [ConfigHelper.applyConfig,computeDiff_self]
  show ConfigHelper.applyEach content (order.arrange []) = pure ()
  rw [none_]
  rfl

theorem checkRestart_self (content : Databag) : ConfigHelper.checkRestart content content = false := by
  rw [ConfigHelper.checkRestart,computeDiff_self]
  rfl

theorem leads_onConfigChanged (order : SetOrder) : Leads d.rules script (Settled [d.file])
    (onConfigChanged d.charm order d.config) (fun _ => Settled [d.file]) := by
  have once {s : Scene (List Char) Call} (settled : Settled [d.file,d.file] s) : Settled [d.file] s :=
    ⟨by simpa using settled.1,settled.2⟩
  refine leads_bind (leads_frame settled_frame (quiet_ask (c := .refreshing) rfl)) (fun refreshing => ?_)
    (fun _ _ settled => settled)
  have applies : Leads d.rules script (Settled [d.file]) (applyConfig d.charm order d.config)
      (fun _ => Settled [d.file]) := by
    refine leads_handle (leads_configs (file_spec d).2) (fun configs => leads_assuming fun same => ?_)
      (fun e s after => ?_)
    · cases same
      simp only [applyConfig_self,checkRestart_self,Bool.and_false]
      refine leads_bind (Q := fun _ => Settled [d.file]) (leads_ret fun s settled => once settled) (fun _ => ?_)
        (fun _ _ settled => settled)
      exact leads_bind (leads_frame settled_frame (quiet_initialized d.charm))
        (fun _ => leads_ret fun _ settled => settled) (fun _ _ settled => settled)
    · show Settled [d.file] (run _ (if _ then _ else _) s).2
      split <;> exact once after.1
  cases refreshing
  · exact applies
  · exact leads_ret fun s settled => settled

/-- Hooks with the same settings leave the file as it is and apply nothing. -/
theorem hooks_settled (d : Deployment) (events : List (SetOrder × Script Call Reply Exn)) :
    (d.hooks d.file events).1 = d.file ∧ ∀ c ∈ (d.hooks d.file events).2, applies c = false := by
  induction events with
  | nil => exact ⟨rfl,fun _ member => absurd member List.not_mem_nil⟩
  | cons event rest ih =>
    obtain ⟨order,script⟩ := event
    have settled := @leads_onConfigChanged d script order ⟨d.file,[]⟩
      ⟨List.mem_singleton.mpr rfl,fun _ member => absurd member List.not_mem_nil⟩
    have same := List.mem_singleton.mp settled.1
    simp only [Deployment.hooks,play,same]
    refine ⟨ih.1,fun c member => ?_⟩
    rcases List.mem_append.mp member with now | later
    · exact settled.2 c now
    · exact ih.2 c later

end

/-- Every configuration survives being written and read: from any file, on any file system,
    a write that succeeds leaves the text of the map and a read that succeeds returns the
    map, and so do `save_config` and `load_config`. Hooks that find the settings unchanged
    leave the file as it is, set no variable and request no restart. -/
theorem unchanged_applies_nothing :
    (∀ (paths : String → Path) (s : Substrate) (c : CharmConfig) (address : Address) (memory : Int),
      let config := located paths (configFor s c address.text memory)
      Survives config ∧ ∀ (d : Deployment) (script : Script Call Reply Exn) (text : List Char),
        ∃ file, written (texts config) = some file ∧
          Leaves script (texts config) file (play d.rules script (writeAndRead config) text)) ∧
    ∀ (d : Deployment), Survives d.serverConfig ∧ written (texts d.serverConfig) = some d.file ∧
      (∀ (script : Script Call Reply Exn) (text : List Char),
        Leaves script (texts d.serverConfig,texts d.serverConfig) d.file (play d.rules script d.saveAndLoad text)) ∧
      ∀ (events : List (SetOrder × Script Call Reply Exn)),
        (d.hooks d.file events).1 = d.file ∧ ∀ c ∈ (d.hooks d.file events).2, applies c = false := by
  have start (text : List Char) : Settled [text] ⟨text,[]⟩ :=
    ⟨List.mem_singleton.mpr rfl,fun _ member => absurd member List.not_mem_nil⟩
  refine ⟨fun paths s c address memory => ⟨survives_located paths s c address memory,fun d script text => ?_⟩,fun d =>
    ⟨survives_configFor d.charm.substrate d.config d.address d.memory,(file_spec d).1,fun script text => ?_,hooks_settled d⟩⟩
  · obtain ⟨file,writes,reads,_⟩ := survives_located paths s c address memory
    exact ⟨file,writes,leads_writeAndRead writes reads _ (start text)⟩
  · exact leads_saveAndLoad _ (start text)

/-- The directories of another file system. -/
def elsewhere : Path where
  text := "/srv/mysql"
  absolute := by decide
  oneLine := by decide
  solid _ last := solid_ofList rfl _ (List.mem_of_getLast? last)

/-- A machine with an address of its own. -/
def alone : Deployment where
  charm := ⟨.vm,"mysql",0,"cluster","10.0.0.10"⟩
  config := weekly
  peers := some ⟨[],[("database-peers-address","10.0.0.10")],0⟩
  hostname := "mysql-0"
  memory := 8589934592
  address := { text := "10.0.0.10", solid := solid_ofList rfl }
  populated := by decide

/-- Every call succeeds. -/
def smooth : Script Call Reply Exn := ⟨fun _ _ => .ok default,fun _ _ => false⟩

theorem unchanged_applies_nothing_alone :
    let config := located (fun _ => elsewhere) (configFor .vm weekly alone.address.text 0)
    let old := "[mysqld]\nmax_connections = 1\n".toList
    let order : SetOrder := ⟨id,fun _ => .refl _⟩
    (play alone.rules smooth (writeAndRead config) old).1 = .ok (texts config) ∧
      (play alone.rules smooth alone.saveAndLoad old).1 = .ok (texts alone.serverConfig,texts alone.serverConfig) ∧
      (play alone.rules smooth alone.saveAndLoad old).2.world = alone.file ∧
      ∀ c ∈ (alone.hooks alone.file [(order,smooth),(order,smooth)]).2, applies c = false := by
  intro config old order
  have fine {α : Type} {a : α} {r : Except Exn α} (gives : Gives smooth a r) : r = .ok a := by
    cases r with
    | ok b => exact congrArg Except.ok gives
    | error e =>
      obtain ⟨_,_,raised⟩ := gives
      cases raised
  obtain ⟨_,_,written⟩ := (unchanged_applies_nothing.1 (fun _ => elsewhere) .vm weekly alone.address 0).2 alone smooth old
  obtain ⟨_,_,saved,kept⟩ := unchanged_applies_nothing.2 alone
  have returns := fine (saved smooth old).1
  exact ⟨fine written.1,returns,(saved smooth old).2 (by rw [returns]; rfl),(kept _).2⟩

end MysqlOperators.ConfigFile
