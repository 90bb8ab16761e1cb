import MysqlOperators.Scripted
import MysqlOperators.Workload

/-!
The configuration of logrotate. It depends on whether the logs are synchronised, which is
a setting of the unit that the handlers of one relation write. The object of these handlers
lives for one dispatch, in which the deferred events are emitted before the event of the
hook.
-/
namespace MysqlOperators.LogRotation
open MysqlOperators.Program MysqlOperators.Program.Prog MysqlOperators.Scripted
open MysqlOperators.External (Exn Substrate)
open MysqlOperators.Workload (commonDir mysqlLogs)

/-! ### The file -/

def mysqlArchive (s : Substrate) : String := commonDir s ++ "/var/lib/mysql/archive"
def logrotateConfig : String := "/etc/logrotate.d/flush_mysql_logs"

def user : Substrate → String
  | .vm => "snap_daemon"
  | .k8s => "mysql"
def group : Substrate → String
  | .vm => "root"
  | .k8s => "mysql"

/-- What the validator of `logs_retention_period` accepts. -/
inductive Retention where
  | auto
  | days (count : {n : Nat // 0 < n ∧ n < 999})
deriving DecidableEq

/-- The part of the configuration of the charm that the file depends on. -/
structure LogsConfig where
  logsRetentionPeriod : Retention
  pluginAuditEnabled : Bool
deriving DecidableEq

def textLogs : List String := ["ERROR","GENERAL","SLOW"]

def logTypes (auditEnabled : Bool) : List String :=
  (textLogs ++ if auditEnabled then ["audit"] else []).map String.toLower

/-- The arguments of `LogrotateService.setup`. -/
structure Settings where
  retentionDays : Nat
  compress : Bool
  logTypes : List String
deriving DecidableEq, Repr

structure File where
  data : String
  mode : Nat
  user : String
  group : String
deriving DecidableEq, Repr

/-- The template up to the retention. -/
def front (s : Substrate) : String :=
  "# Create dedicated subdirectory for rotated files\ncreateolddir 770 " ++ user s ++ " " ++ group s ++
  "\n\n# Frequency of logs rotation\nhourly\nmaxage "

def rotate (files : Nat) : String := "\nrotate " ++ toString files ++ "\n\n# Compression settings\n\n"

def compression (compress : Bool) : String := if compress then "compress" else "nocompress"

/-- What the template has behind the compression settings. -/
def behind : String :=
  "\n\n\n# Naming of rotated files should be in the format:\ndateext\ndateformat -%Y%m%d_%H%M\n\n" ++
  "# Settings to prevent misconfigurations:\nifempty\nmissingok\nnomail\nnosharedscripts\n\n" ++
  "# The `copytruncate` option is needed because rotated logs might be in a different filesystem\n" ++
  "# The `nocopytruncate` option would fail with `failed to rename ...: Invalid cross-device link`\n" ++
  "copy\ncopytruncate\n\n"

def block (s : Substrate) (log : String) : String :=
  "\n" ++ mysqlLogs s ++ "/" ++ log ++ ".log \x7b\n    olddir " ++ mysqlArchive s ++ "/archive_" ++ log ++ "\n\x7d\n"

/-- `config.j2`, rendered. Logrotate runs once per minute. -/
def rendered (s : Substrate) (x : Settings) : String :=
  front s ++ toString x.retentionDays ++ rotate (x.retentionDays * 24 * 60) ++ compression x.compress ++ behind ++
  String.join (x.logTypes.map (block s))

def fileFor (s : Substrate) (x : Settings) : File := ⟨rendered s x,0o640,user s,group s⟩

/-- The retention when the logs are synchronised, and when they are not. -/
def Retention.daysFor (synchronized : Bool) : Retention → Nat
  | .auto => if synchronized then 1 else 3
  | .days n => n.val

def settingsFor (synchronized : Bool) (c : LogsConfig) : Settings :=
  ⟨c.logsRetentionPeriod.daysFor synchronized,synchronized,logTypes c.pluginAuditEnabled⟩

/-- Texts differ that differ first after a common part. -/
theorem append_ne {common a b rest rest' : String} {c d : Char} {l m : List Char} (left : a.toList = c :: l)
    (right : b.toList = d :: m) (differ : c ≠ d) : common ++ (a ++ rest) ≠ common ++ (b ++ rest') := by
  intro same
  have texts := congrArg String.toList same
  simp [left,right,differ] at texts

/-- Without synchronisation, at the latest the compression differs. -/
theorem rendered_ne (s : Substrate) (c : LogsConfig) :
    rendered s (settingsFor true c) ≠ rendered s (settingsFor false c) := by
  rcases c with ⟨retention,audit⟩
  cases retention with
  | auto =>
    simp only [rendered,settingsFor,String.append_assoc]
    exact append_ne (c := '1') (d := '3') (l := []) (m := []) rfl rfl (by decide)
  | days n =>
    have grouped (x : Settings) : rendered s x = (front s ++ toString x.retentionDays ++
        rotate (x.retentionDays * 24 * 60)) ++ (compression x.compress ++
          (behind ++ String.join (x.logTypes.map (block s)))) := by
      simp only [rendered,String.append_assoc]
    rw [grouped,grouped]
    have compresses : (compression true).toList = 'c' :: ['o','m','p','r','e','s','s'] := rfl
    have leaves : (compression false).toList = 'n' :: ['o','c','o','m','p','r','e','s','s'] := rfl
    exact append_ne compresses leaves (by decide)

/-- The file tells whether the logs are synchronised. -/
theorem fileFor_injective (s : Substrate) (c : LogsConfig) {synchronized synchronized' : Bool}
    (same : fileFor s (settingsFor synchronized c) = fileFor s (settingsFor synchronized' c)) :
    synchronized = synchronized' := by
  have data : rendered s (settingsFor synchronized c) = rendered s (settingsFor synchronized' c) :=
    congrArg File.data same
  cases synchronized <;> cases synchronized'
  · rfl
  · exact absurd data.symm (rendered_ne s c)
  · exact absurd data (rendered_ne s c)
  · rfl

/-! ### The handlers -/

inductive Call where
  | canConnect
  | charmConfig
  | unitData (key : String)
  | setUnitData (key value : String)
  | deleteUnitData (key : String)
  | writeText (path : String) (file : File)
  | defer
deriving DecidableEq, Repr

@[reducible] def Reply : Call → Type
  | .canConnect => Bool
  | .charmConfig => LogsConfig
  | .unitData _ => Option String
  | .setUnitData _ _ | .deleteUnitData _ | .writeText _ _ | .defer => Unit

abbrev Hook := Prog Call Reply Exn

@[reducible] def ask (c : Call) : Hook (Reply c) := perform c

def syncKey : String := "logs-synced"

/-- `get_logrotate_sync_flag`, of what the databag has. -/
def syncFlag : Option String → Option Bool
  | none => none
  | some flag => if flag = "" then none else some (flag == "true")

/-- `bool(get_synced_flag())`. -/
def synced (stored : Option String) : Bool := (syncFlag stored).getD false

/-- `system.ready`. -/
def systemReady : Substrate → Hook Bool
  | .vm => pure true
  | .k8s => ask .canConnect

/-- `_synchronized`, once it has been read a cached value. -/
def synchronized : Option Bool → Hook Bool
  | some cached => pure cached
  | none => do
    let stored ← ask (.unitData syncKey)
    pure (synced stored)

def setup (s : Substrate) (x : Settings) : Hook Unit := ask (.writeText logrotateConfig (fileFor s x))

/-- `_update_config`, with the value of `_synchronized` that it leaves cached. -/
def updateConfig (s : Substrate) (cache : Option Bool) : Hook Bool := do
  let audit := (← ask .charmConfig).pluginAuditEnabled
  let retention := (← ask .charmConfig).logsRetentionPeriod
  match retention with
  | .auto => do
    let first ← synchronized cache
    let compress ← synchronized (some first)
    setup s ⟨if first then 1 else 3,compress,logTypes audit⟩
    pure compress
  | .days n => do
    let compress ← synchronized cache
    setup s ⟨n.val,compress,logTypes audit⟩
    pure compress

inductive Event where
  | relationCreated
  | relationBroken
  | configChanged
deriving DecidableEq, Repr

def onConfigChanged (s : Substrate) (cache : Option Bool) : Hook (Option Bool) := do
  if ← systemReady s then
    let cached ← updateConfig s cache
    pure (some cached)
  else pure cache

def onRelationCreated (s : Substrate) (cache : Option Bool) : Hook (Option Bool) := do
  if ← systemReady s then
    ask (.setUnitData syncKey "true")
    let cached ← updateConfig s cache
    pure (some cached)
  else
    ask .defer
    pure cache

def onRelationBroken (s : Substrate) (cache : Option Bool) : Hook (Option Bool) := do
  if ← systemReady s then
    ask (.deleteUnitData syncKey)
    let cached ← updateConfig s cache
    pure (some cached)
  else pure cache

/-- The handler of an event, with what is cached before and after it. -/
def handler (s : Substrate) : Event → Option Bool → Hook (Option Bool)
  | .relationCreated => onRelationCreated s
  | .relationBroken => onRelationBroken s
  | .configChanged => onConfigChanged s

/-! ### Dispatches -/

/-- What a dispatch sees: its configuration, the settings of the unit and the file. -/
structure World where
  config : LogsConfig
  databag : String → Option String
  written : Option File

namespace World

def answer (w : World) : (c : Call) → Except Exn (Reply c) → Except Exn (Reply c)
  | .charmConfig,.ok _ => .ok w.config
  | .unitData key,.ok _ => .ok (w.databag key)
  | _,r => r

/-- What a call does if it takes effect. -/
def done (w : World) : Call → World
  | .setUnitData key value => { w with databag := Function.update w.databag key (some value) }
  | .deleteUnitData key => { w with databag := Function.update w.databag key none }
  | .writeText _ file => { w with written := some file }
  | _ => w

def effect (w : World) (c : Call) (r : Except Exn (Reply c)) (happened : Bool) : World :=
  if r.isOk || happened then w.done c else w

/-- The file follows from the stored flag and the configuration. -/
def Fresh (s : Substrate) (w : World) : Prop :=
  w.written = some (fileFor s (settingsFor (synced (w.databag syncKey)) w.config))

end World

def rules : Rules World Call Reply Exn := ⟨World.answer,World.effect⟩

section
variable (s : Substrate)

/-- An event that is emitted, and how the calls of its handler end. -/
structure Emission where
  event : Event
  script : Script Call Reply Exn

/-- Whether the system is ready when the event is emitted. -/
def Emission.ready (x : Emission) : Except Exn Bool :=
  match s with
  | .vm => .ok true
  | .k8s => x.script.reply .canConnect 0

def emit (x : Emission) (cache : Option Bool) (w : World) : Except Exn (Option Bool) × Scene World Call :=
  play rules x.script (handler s x.event cache) w

/-- After each handler that does not defer, in a system that is ready, the file is fresh. -/
def FreshEach : List Emission → Option Bool → World → Prop
  | [],_,_ => True
  | x :: rest,cache,w =>
    match emit s x cache w with
    | (.error _,_) => True
    | (.ok cache',ended) =>
      (x.ready s = .ok true → .defer ∉ ended.log → ended.world.Fresh s) ∧ FreshEach rest cache' ended.world

/-- The events that are deferred again, and the world that is left. -/
def emitAll : List Emission → Option Bool → World → Except Exn (List Event) × World
  | [],_,w => (.ok [],w)
  | x :: rest,cache,w =>
    match emit s x cache w with
    | (.error e,ended) => (.error e,ended.world)
    | (.ok cache',ended) =>
      match emitAll rest cache' ended.world with
      | (.error e,w') => (.error e,w')
      | (.ok again,w') => (.ok (if .defer ∈ ended.log then x.event :: again else again),w')

/-- A unit between dispatches. -/
structure State where
  databag : String → Option String
  written : Option File
  deferred : List Event

/-- The event of a hook, if its handler is one of these, how the calls end in the handlers
    of the deferred events and in its own, and whether something else raises in the hook. -/
structure Dispatch where
  config : LogsConfig
  replays : Nat → Script Call Reply Exn
  main : Option Event
  script : Script Call Reply Exn
  fails : Bool

def Dispatch.deferred (d : Dispatch) (st : State) : List Emission := st.deferred.mapIdx fun i e => ⟨e,d.replays i⟩

def Dispatch.emissions (d : Dispatch) (st : State) : List Emission :=
  d.deferred st ++ (d.main.map fun e => ⟨e,d.script⟩).toList

def Dispatch.world (d : Dispatch) (st : State) : World := ⟨d.config,st.databag,st.written⟩

/-- A dispatch with a new object. When a handler raises, Juju drops what the hook has set,
    and the events stay. -/
def dispatch (st : State) (d : Dispatch) : State :=
  match emitAll s (d.emissions st) none (d.world st) with
  | (.error _,w) => ⟨st.databag,w.written,st.deferred⟩
  | (.ok again,w) => if d.fails then ⟨st.databag,w.written,st.deferred⟩ else ⟨w.databag,w.written,again⟩

/-- The state after some dispatches of a unit that has deferred nothing. -/
def after (databag : String → Option String) (written : Option File) (past : List Dispatch) : State :=
  past.foldl (dispatch s) ⟨databag,written,[]⟩

/-! ### One event -/

/-- The world when the handler of an event updates the file. -/
def World.flagged (w : World) : Event → World
  | .relationCreated => w.done (.setUnitData syncKey "true")
  | .relationBroken => w.done (.deleteUnitData syncKey)
  | .configChanged => w

@[simp] theorem World.flagged_config (w : World) (e : Event) : (w.flagged e).config = w.config := by
  cases e <;> rfl

/-- What `_synchronized` is then. -/
def taken (e : Event) (cache : Option Bool) (w : World) : Bool :=
  cache.getD (synced ((w.flagged e).databag syncKey))

/-- The file that is written. -/
def fileOf (e : Event) (cache : Option Bool) (w : World) : File := fileFor s (settingsFor (taken e cache w) w.config)

/-- The world once the handler has returned. -/
def World.updated (w : World) (e : Event) (cache : Option Bool) : World :=
  { w.flagged e with written := some (fileOf s e cache w) }

/-- No call of `_update_config` fails. -/
structure Updates (script : Script Call Reply Exn) (cache : Option Bool) (file : File) : Prop where
  audit : ∃ c, script.reply .charmConfig 0 = .ok c
  retention : ∃ c, script.reply .charmConfig 1 = .ok c
  flag : cache = none → ∃ stored, script.reply (.unitData syncKey) 0 = .ok stored
  writes : script.reply (.writeText logrotateConfig file) 0 = .ok ()

/-- No call of the handler fails. -/
def Passes (x : Emission) (cache : Option Bool) (w : World) : Prop :=
  match x.ready s with
  | .error _ => False
  | .ok false => x.event = .relationCreated → x.script.reply .defer 0 = .ok ()
  | .ok true =>
    (x.event = .relationCreated → x.script.reply (.setUnitData syncKey "true") 0 = .ok ()) ∧
    (x.event = .relationBroken → x.script.reply (.deleteUnitData syncKey) 0 = .ok ()) ∧
    Updates x.script cache (fileOf s x.event cache w)

theorem run_synchronized {script : Script Call Reply Exn} {log : List Call} (new : log.count (.unitData syncKey) = 0)
    (cache : Option Bool) (w : World) :
    (cache = none → ∃ stored, script.reply (.unitData syncKey) 0 = .ok stored) ∧
      (∃ log', run (respond rules script) (synchronized cache) ⟨w,log⟩ =
          (.ok (cache.getD (synced (w.databag syncKey))),⟨w,log ++ log'⟩) ∧
        ∀ c ∈ log', c = .unitData syncKey) ∨
    ¬ (cache = none → ∃ stored, script.reply (.unitData syncKey) 0 = .ok stored) ∧
      ∃ e ended, run (respond rules script) (synchronized cache) ⟨w,log⟩ = (.error e,ended) := by
  cases cache with
  | some cached => exact .inl ⟨nofun,[],by simp [synchronized]⟩
  | none =>
    rcases answered : script.reply (.unitData syncKey) 0 with e | stored
    · refine .inr ⟨by simp,e,?_⟩
      simp [synchronized,ask,run_bind,respond,rules,new,answered,World.answer,-bind_pure_comp]
    · refine .inl ⟨fun _ => ⟨stored,rfl⟩,[.unitData syncKey],?_,by simp⟩
      simp [synchronized,ask,run_bind,respond,rules,new,answered,World.answer,World.effect,World.done,-bind_pure_comp]

/-- The second time, the cached value is read. -/
theorem updateConfig_eq (cache : Option Bool) : updateConfig s cache = (do
    let first ← ask .charmConfig
    let second ← ask .charmConfig
    let compress ← synchronized cache
    setup s ⟨second.logsRetentionPeriod.daysFor compress,compress,logTypes first.pluginAuditEnabled⟩
    pure compress) := by
  unfold updateConfig
  refine bind_congr fun first => bind_congr fun second => ?_
  rcases second with ⟨_ | n,audit⟩ <;> rfl

theorem run_updateConfig (script : Script Call Reply Exn) {log : List Call}
    (new : ∀ c, c ≠ .canConnect → (∀ value, c ≠ .setUnitData syncKey value) → c ≠ .deleteUnitData syncKey →
      log.count c = 0) (cache : Option Bool) (w : World) (cached : Bool) (file : File)
    (value : cached = cache.getD (synced (w.databag syncKey))) (text : file = fileFor s (settingsFor cached w.config)) :
    (Updates script cache file ∧ ∃ log', run (respond rules script) (updateConfig s cache) ⟨w,log⟩ =
        (.ok cached,⟨{ w with written := some file },log ++ log'⟩) ∧ .defer ∉ log') ∨
      (¬ Updates script cache file ∧
        ∃ e ended, run (respond rules script) (updateConfig s cache) ⟨w,log⟩ = (.error e,ended)) := by
  have newConfig := new .charmConfig (by simp) (by simp) (by simp)
  have newWrite := new (.writeText logrotateConfig file) (by simp) (by simp) (by simp)
  rw [updateConfig_eq]
  rcases audit : script.reply .charmConfig 0 with e | first
  · refine .inr ⟨fun updates => ?_,e,?_⟩
    · obtain ⟨c,same⟩ := updates.audit
      simp [audit] at same
    · simp [ask,run_bind,respond,rules,newConfig,audit,World.answer,-bind_pure_comp]
  rcases retention : script.reply .charmConfig 1 with e | second
  · refine .inr ⟨fun updates => ?_,e,?_⟩
    · obtain ⟨c,same⟩ := updates.retention
      simp [retention] at same
    · simp [ask,run_bind,respond,rules,newConfig,audit,retention,World.answer,World.effect,World.done,-bind_pure_comp]
  have configured {α : Type} (f : LogsConfig → LogsConfig → Hook α) :
      run (respond rules script) (do let first ← ask .charmConfig; let second ← ask .charmConfig; f first second)
        ⟨w,log⟩ = run (respond rules script) (f w.config w.config) ⟨w,log ++ [.charmConfig] ++ [.charmConfig]⟩ := by
    simp [ask,run_bind,respond,rules,newConfig,audit,retention,World.answer,World.effect,World.done,-bind_pure_comp]
  have newFlag : (log ++ [Call.charmConfig] ++ [Call.charmConfig]).count (.unitData syncKey) = 0 := by
    simp [new (.unitData syncKey) (by simp) (by simp) (by simp)]
  rcases run_synchronized newFlag cache w with ⟨there,log',reads,only⟩ | ⟨missing,e,ended,fails⟩
  · rw [← value] at reads
    have sets : setup s ⟨w.config.logsRetentionPeriod.daysFor cached,cached,logTypes w.config.pluginAuditEnabled⟩ =
        ask (.writeText logrotateConfig file) := by
      rw [text]
      rfl
    have fresh : log'.count (.writeText logrotateConfig file) = 0 := by
      refine List.count_eq_zero.mpr fun member => ?_
      cases only _ member
    have undeferred : Call.defer ∉ log' := by
      intro member
      cases only _ member
    rcases writes : script.reply (.writeText logrotateConfig file) 0 with e | _
    · refine .inr ⟨fun updates => ?_,e,?_⟩
      · have same := updates.writes
        simp [writes] at same
      · rw [configured,run_bind,reads]
        simp [sets,ask,run_bind,respond,rules,newWrite,fresh,writes,World.answer,-bind_pure_comp]
    · refine .inl ⟨⟨⟨_,audit⟩,⟨_,retention⟩,there,writes⟩,
        [.charmConfig,.charmConfig] ++ log' ++ [.writeText logrotateConfig file],?_,?_⟩
      · rw [configured,run_bind,reads]
        simp [sets,ask,run_bind,respond,rules,newWrite,fresh,writes,World.answer,World.effect,World.done,Except.isOk,
          Except.toBool,-bind_pure_comp]
      · simp [undeferred]
  · refine .inr ⟨fun updates => missing updates.flag,e,ended,?_⟩
    rw [configured,run_bind,fails]

/-- The calls with which the system is asked whether it is ready. -/
def readyCalls : List Call := if s = .k8s then [.canConnect] else []

theorem run_systemReady (x : Emission) (w : World) :
    (∃ b, x.ready s = .ok b ∧
      run (respond rules x.script) (systemReady s) ⟨w,[]⟩ = (.ok b,⟨w,readyCalls s⟩)) ∨
    ∃ e ended, x.ready s = .error e ∧ run (respond rules x.script) (systemReady s) ⟨w,[]⟩ = (.error e,ended) := by
  cases s with
  | vm => exact .inl ⟨true,rfl,rfl⟩
  | k8s =>
    rcases answered : x.script.reply .canConnect 0 with e | b
    · refine .inr ⟨e,(respond rules x.script ⟨w,[]⟩ .canConnect).2,answered,?_⟩
      simp [systemReady,ask,respond,rules,answered,World.answer]
    · refine .inl ⟨b,answered,?_⟩
      simp [systemReady,ask,respond,rules,answered,World.answer,World.effect,World.done,readyCalls]

theorem count_readyCalls {c : Call} (other : c ≠ .canConnect) : (readyCalls s).count c = 0 := by
  unfold readyCalls
  split
  · simp [other.symm]
  · rfl

/-- What an event does to the flag. -/
def flagging : Event → Hook Unit
  | .relationCreated => ask (.setUnitData syncKey "true")
  | .relationBroken => ask (.deleteUnitData syncKey)
  | .configChanged => pure ()

def flagCalls : Event → List Call
  | .relationCreated => [.setUnitData syncKey "true"]
  | .relationBroken => [.deleteUnitData syncKey]
  | .configChanged => []

/-- No call for the flag fails. -/
def Flags (script : Script Call Reply Exn) (e : Event) : Prop :=
  (e = .relationCreated → script.reply (.setUnitData syncKey "true") 0 = .ok ()) ∧
    (e = .relationBroken → script.reply (.deleteUnitData syncKey) 0 = .ok ())

theorem run_flagging (script : Script Call Reply Exn) (e : Event) (w : World) :
    (Flags script e ∧ run (respond rules script) (flagging e) ⟨w,readyCalls s⟩ =
        (.ok (),⟨w.flagged e,readyCalls s ++ flagCalls e⟩)) ∨
      (¬ Flags script e ∧ ∃ x, (run (respond rules script) (flagging e) ⟨w,readyCalls s⟩).1 = .error x) := by
  cases e with
  | configChanged => exact .inl ⟨⟨by simp,by simp⟩,by simp [flagging,World.flagged,flagCalls]⟩
  | relationCreated =>
    have new := count_readyCalls s (c := .setUnitData syncKey "true") (by simp)
    rcases sets : script.reply (.setUnitData syncKey "true") 0 with x | _
    · refine .inr ⟨by simp [Flags,sets],x,?_⟩
      simp [flagging,ask,respond,rules,new,sets,World.answer]
    · refine .inl ⟨by simp [Flags,sets],?_⟩
      simp [flagging,ask,respond,rules,new,sets,World.answer,World.effect,World.flagged,flagCalls,Except.isOk,
        Except.toBool]
  | relationBroken =>
    have new := count_readyCalls s (c := .deleteUnitData syncKey) (by simp)
    rcases deletes : script.reply (.deleteUnitData syncKey) 0 with x | _
    · refine .inr ⟨by simp [Flags,deletes],x,?_⟩
      simp [flagging,ask,respond,rules,new,deletes,World.answer]
    · refine .inl ⟨by simp [Flags,deletes],?_⟩
      simp [flagging,ask,respond,rules,new,deletes,World.answer,World.effect,World.flagged,flagCalls,Except.isOk,
        Except.toBool]

/-- The handler of an event once the system has been asked whether it is ready. -/
def reacting (e : Event) (cache : Option Bool) (ready : Bool) : Hook (Option Bool) :=
  if ready then do
    flagging e
    let cached ← updateConfig s cache
    pure (some cached)
  else if e = .relationCreated then do
    ask .defer
    pure cache
  else pure cache

theorem handler_eq (e : Event) (cache : Option Bool) : handler s e cache = systemReady s >>= reacting s e cache := by
  cases e <;> exact bind_congr fun ready => by cases ready <;> rfl

/-- The handler fails, or it does nothing but defer since the system is not ready, or it
    writes the file. -/
theorem emit_cases (x : Emission) (cache : Option Bool) (w : World) :
    (¬ Passes s x cache w ∧ ∃ e ended, emit s x cache w = (.error e,ended)) ∨
    (Passes s x cache w ∧ x.ready s = .ok false ∧
      ∃ log, emit s x cache w = (.ok cache,⟨w,log⟩) ∧ (.defer ∈ log ↔ x.event = .relationCreated)) ∨
    (Passes s x cache w ∧ x.ready s = .ok true ∧
      ∃ log, emit s x cache w = (.ok (some (taken x.event cache w)),
        ⟨w.updated s x.event cache,log⟩) ∧ .defer ∉ log) := by
  have undeferred : Call.defer ∉ readyCalls s := List.count_eq_zero.mp (count_readyCalls s nofun)
  obtain ⟨b,ready,asked⟩ | ⟨e,ended,ready,asked⟩ := run_systemReady s x w
  · have emitted : emit s x cache w = run (respond rules x.script) (reacting s x.event cache b) ⟨w,readyCalls s⟩ := by
      rw [emit,play,handler_eq,run_bind,asked]
    rw [emitted]
    cases b with
    | false =>
      by_cases created : x.event = .relationCreated
      · rcases defers : x.script.reply .defer 0 with e | _
        · refine .inl ⟨by simp [Passes,ready,created,defers],e,_,Prod.ext ?_ rfl⟩
          simp [reacting,created,ask,run_bind,respond,rules,count_readyCalls,defers,World.answer,-bind_pure_comp]
        · refine .inr (.inl ⟨by simp [Passes,ready,defers],ready,readyCalls s ++ [.defer],?_,by simp [created]⟩)
          simp [reacting,created,ask,run_bind,respond,rules,count_readyCalls,defers,World.answer,World.effect,
            World.done,-bind_pure_comp]
      · refine .inr (.inl ⟨by simp [Passes,ready,created],ready,readyCalls s,?_,by simp [undeferred,created]⟩)
        simp [reacting,created]
    | true =>
      obtain ⟨flags,flagged⟩ | ⟨stuck,e,fails⟩ := run_flagging s x.script x.event w
      · have new : ∀ c, c ≠ .canConnect → (∀ value, c ≠ .setUnitData syncKey value) → c ≠ .deleteUnitData syncKey →
            (readyCalls s ++ flagCalls x.event).count c = 0 := by
          intro c other set delete
          cases x.event <;> simp [flagCalls,count_readyCalls s other,(set "true").symm,delete.symm]
        have undeferred' : Call.defer ∉ flagCalls x.event := by cases x.event <;> simp [flagCalls]
        obtain ⟨updates,log,ran,undeferred''⟩ | ⟨stuck,e,ended,ran⟩ := run_updateConfig s x.script new cache
          (w.flagged x.event) (taken x.event cache w) (fileOf s x.event cache w) rfl (by simp [fileOf])
        · refine .inr (.inr ⟨?_,ready,readyCalls s ++ flagCalls x.event ++ log,?_,?_⟩)
          · simp only [Passes,ready]
            exact ⟨flags.1,flags.2,updates⟩
          · simp only [reacting,if_true,run_bind,flagged,ran,run_pure]
            rfl
          · simp [undeferred,undeferred',undeferred'']
        · refine .inl ⟨?_,e,ended,?_⟩
          · simp only [Passes,ready]
            exact fun passes => stuck passes.2.2
          · simp only [reacting,if_true,run_bind,flagged,ran]
      · refine .inl ⟨?_,e,_,Prod.ext ?_ rfl⟩
        · simp only [Passes,ready]
          exact fun passes => stuck ⟨passes.1,passes.2.1⟩
        · rcases ran : run (respond rules x.script) (flagging x.event) ⟨w,readyCalls s⟩ with ⟨r,ended⟩
          rw [ran] at fails
          simp only at fails
          simp only [reacting,if_true,run_bind,ran,fails]
  · refine .inl ⟨by simp [Passes,ready],e,ended,?_⟩
    rw [emit,play,handler_eq,run_bind,asked]

/-! ### One dispatch -/

/-- What a handler that fails no call leaves cached. -/
def cacheAfter (x : Emission) (cache : Option Bool) (w : World) : Option Bool :=
  if x.ready s = .ok true then some (taken x.event cache w) else cache

/-- What it leaves of the world. -/
def worldAfter (x : Emission) (cache : Option Bool) (w : World) : World :=
  if x.ready s = .ok true then w.updated s x.event cache else w

/-- No call of any handler fails. -/
def Completes : List Emission → Option Bool → World → Prop
  | [],_,_ => True
  | x :: rest,cache,w => Passes s x cache w ∧ Completes rest (cacheAfter s x cache w) (worldAfter s x cache w)

/-- In a system that is ready, a deferred relation-created is followed by relation-broken. -/
structure Overtaken (st : State) (d : Dispatch) : Prop where
  replayed : ∃ x ∈ d.deferred st, x.event = .relationCreated ∧ x.ready s = .ok true
  main : d.main = some .relationBroken
  ready : (⟨.relationBroken,d.script⟩ : Emission).ready s = .ok true
  completes : Completes s (d.emissions st) none (d.world st)

/-- A file is fresh exactly when the flag was read as it is stored. -/
theorem fresh_iff (e : Event) (cache : Option Bool) (w : World) :
    (w.updated s e cache).Fresh s ↔ taken e cache w = synced ((w.flagged e).databag syncKey) := by
  unfold World.Fresh World.updated
  rw [Option.some.injEq,fileOf,World.flagged_config]
  constructor
  · exact fileFor_injective s w.config
  · rintro same
    rw [same]

/-- What deferred events leave: nothing is cached, or that the logs are synchronised. -/
def Agrees (cache : Option Bool) (w : World) : Prop :=
  cache = none ∨ cache = some true ∧ synced (w.databag syncKey) = true

theorem synced_created (w : World) : synced ((w.flagged .relationCreated).databag syncKey) = true := by
  simp [World.flagged,World.done,synced,syncFlag]

theorem synced_broken (w : World) : synced ((w.flagged .relationBroken).databag syncKey) = false := by
  simp [World.flagged,World.done,synced,syncFlag]

/-- The last handler writes a stale file only if the relation is broken. -/
theorem fresh_last (e : Event) {cache : Option Bool} {w : World} (agrees : Agrees cache w) :
    (w.updated s e cache).Fresh s ↔ ¬ (e = .relationBroken ∧ cache = some true) := by
  rw [fresh_iff,taken]
  rcases agrees with rfl | ⟨rfl,stored⟩
  · simp
  · cases e with
    | relationCreated => simp [synced_created]
    | relationBroken => simp [synced_broken]
    | configChanged => simp [World.flagged,stored]

theorem taken_created {cache : Option Bool} {w : World} (agrees : Agrees cache w) :
    taken .relationCreated cache w = true := by
  rw [taken]
  rcases agrees with rfl | ⟨rfl,_⟩
  · exact synced_created w
  · rfl

theorem freshEach_iff (main : Option Emission) {queue : List Emission} (cache : Option Bool) (w : World)
    (created : ∀ x ∈ queue, x.event = .relationCreated) (agrees : Agrees cache w) :
    FreshEach s (queue ++ main.toList) cache w ↔
      ¬ ((cache = some true ∨ ∃ x ∈ queue, x.ready s = .ok true) ∧
        (∃ y, main = some y ∧ y.event = .relationBroken ∧ y.ready s = .ok true) ∧
        Completes s (queue ++ main.toList) cache w) := by
  induction queue generalizing cache w with
  | nil =>
    cases main with
    | none => simp [FreshEach]
    | some y =>
      obtain ⟨fails,e,ended,emitted⟩ | ⟨passes,unready,log,emitted,_⟩ | ⟨passes,ready,log,emitted,undeferred⟩ :=
        emit_cases s y cache w
      · simp [FreshEach,Completes,emitted,fails]
      · simp [FreshEach,emitted,unready]
      · have fresh := fresh_last s y.event agrees
        simp [FreshEach,Completes,emitted,passes,ready,undeferred,fresh]
        exact imp_not_comm
  | cons x rest ih =>
    have later : ∀ y ∈ rest, y.event = .relationCreated := fun y member => created y (List.mem_cons_of_mem _ member)
    have first : x.event = .relationCreated := created x (by simp)
    obtain ⟨fails,e,ended,emitted⟩ | ⟨passes,unready,log,emitted,_⟩ | ⟨passes,ready,log,emitted,undeferred⟩ :=
      emit_cases s x cache w
    · simp [FreshEach,Completes,emitted,fails]
    · have rest' := ih cache w later agrees
      simp [FreshEach,Completes,emitted,unready,passes,cacheAfter,worldAfter,rest']
    · have fresh : (w.updated s x.event cache).Fresh s := by
        refine (fresh_last s x.event agrees).mpr ?_
        rintro ⟨broken,_⟩
        rw [first] at broken
        cases broken
      have cached : taken x.event cache w = true := by rw [first,taken_created agrees]
      have rest' := ih (some true) (w.updated s x.event cache) later (.inr ⟨rfl,by
        rw [first]
        exact synced_created w⟩)
      simp [FreshEach,Completes,emitted,ready,passes,cacheAfter,worldAfter,undeferred,fresh,cached,rest']

/-- Only relation-created is deferred. -/
theorem emitAll_created (l : List Emission) (cache : Option Bool) (w : World) {again : List Event} {w' : World}
    (ends : emitAll s l cache w = (.ok again,w')) : ∀ e ∈ again, e = .relationCreated := by
  induction l generalizing cache w again w' with
  | nil =>
    cases ends
    simp
  | cons x rest ih =>
    rw [emitAll] at ends
    obtain ⟨_,e,ended,emitted⟩ | ⟨_,_,log,emitted,defers⟩ | ⟨_,_,log,emitted,undeferred⟩ := emit_cases s x cache w
    · rw [emitted] at ends
      cases ends
    · rw [emitted] at ends
      rcases left : emitAll s rest cache w with ⟨e | more,v⟩
      · simp only [left] at ends
        cases ends
      · simp only [left,Prod.mk.injEq,Except.ok.injEq] at ends
        obtain ⟨rfl,_⟩ := ends
        have kept := ih _ _ left
        by_cases deferred : Call.defer ∈ log
        · simpa [deferred,defers.mp deferred] using kept
        · simpa [deferred] using kept
    · rw [emitted] at ends
      rcases left : emitAll s rest (some (taken x.event cache w)) (w.updated s x.event cache) with ⟨e | more,v⟩
      · simp only [left] at ends
        cases ends
      · simp only [left,undeferred,if_false,Prod.mk.injEq,Except.ok.injEq] at ends
        obtain ⟨rfl,_⟩ := ends
        exact ih _ _ left

theorem dispatch_created (d : Dispatch) {st : State} (before : ∀ e ∈ st.deferred, e = .relationCreated) :
    ∀ e ∈ (dispatch s st d).deferred, e = .relationCreated := by
  rw [dispatch]
  rcases ends : emitAll s (d.emissions st) none (d.world st) with ⟨e | again,w⟩
  · exact before
  · by_cases fails : d.fails = true
    · simpa [fails] using before
    · simpa [fails] using emitAll_created s _ _ _ ends

theorem after_created (databag : String → Option String) (written : Option File) (past : List Dispatch) :
    ∀ e ∈ (after s databag written past).deferred, e = .relationCreated := by
  have along : ∀ (l : List Dispatch) (st : State), (∀ e ∈ st.deferred, e = .relationCreated) →
      ∀ e ∈ (l.foldl (dispatch s) st).deferred, e = .relationCreated := by
    intro l
    induction l with
    | nil => exact fun _ before => before
    | cons d rest ih => exact fun st before => ih _ (dispatch_created s d before)
  exact along past _ nofun

/-- The files of a dispatch. -/
def FreshDispatch (st : State) (d : Dispatch) : Prop := FreshEach s (d.emissions st) none (d.world st)

theorem freshDispatch_iff {st : State} (created : ∀ e ∈ st.deferred, e = .relationCreated) (d : Dispatch) :
    FreshDispatch s st d ↔ ¬ Overtaken s st d := by
  have queue : ∀ x ∈ d.deferred st, x.event = .relationCreated := by
    intro x member
    obtain ⟨i,below,rfl⟩ := List.mem_mapIdx.mp member
    exact created _ (List.getElem_mem below)
  have each := freshEach_iff s (d.main.map fun e => ⟨e,d.script⟩) none (d.world st) queue (.inl rfl)
  rw [FreshDispatch,Dispatch.emissions,each,not_iff_not]
  constructor
  · rintro ⟨none_ | ⟨x,member,ready⟩,⟨y,main,broken,ready'⟩,completes⟩
    · cases none_
    · obtain ⟨e,main',rfl⟩ := Option.map_eq_some_iff.mp main
      simp only at broken
      subst broken
      exact ⟨⟨x,member,queue x member,ready⟩,main',ready',completes⟩
  · rintro ⟨⟨x,member,_,ready⟩,main,ready',completes⟩
    exact ⟨.inr ⟨x,member,ready⟩,⟨_,by rw [main]; rfl,rfl,ready'⟩,completes⟩

/-- In every run, every file is fresh exactly when no dispatch overtakes a deferred event. -/
theorem fresh_iff_never_overtaken (databag : String → Option String) (written : Option File) (run : List Dispatch) :
    (∀ past d rest, run = past ++ d :: rest → FreshDispatch s (after s databag written past) d) ↔
      ∀ past d rest, run = past ++ d :: rest → ¬ Overtaken s (after s databag written past) d := by
  constructor
  · intro fresh past d rest same
    exact (freshDispatch_iff s (after_created s databag written past) d).mp (fresh past d rest same)
  · intro never past d rest same
    exact (freshDispatch_iff s (after_created s databag written past) d).mpr (never past d rest same)

end

/-- Every call succeeds, and the system is as ready as is given. -/
def calm (ready : Bool) : Script Call Reply Exn where
  reply c _ := match c with
    | .canConnect => .ok ready
    | .charmConfig => .ok ⟨.auto,false⟩
    | .unitData _ => .ok none
    | .setUnitData _ _ | .deleteUnitData _ | .writeText _ _ | .defer => .ok ()
  takesEffect _ _ := false

theorem passes_calm (s : Substrate) (ready : Bool) (e : Event) (cache : Option Bool) (w : World) :
    Passes s ⟨e,calm ready⟩ cache w := by
  have updates (file : File) : Updates (calm ready) cache file := ⟨⟨_,rfl⟩,⟨_,rfl⟩,fun _ => ⟨_,rfl⟩,rfl⟩
  cases s with
  | vm => exact ⟨fun _ => rfl,fun _ => rfl,updates _⟩
  | k8s =>
    cases ready with
    | true => exact ⟨fun _ => rfl,fun _ => rfl,updates _⟩
    | false => exact fun _ => rfl

/-- The relation is created while the container is not up yet. -/
def created : Dispatch := ⟨⟨.auto,false⟩,fun _ => calm true,some .relationCreated,calm false,false⟩

/-- It is broken when it is. -/
def broken : Dispatch := ⟨⟨.auto,false⟩,fun _ => calm true,some .relationBroken,calm true,false⟩

/-- Once the relation is gone, the file is still the one for logs that are synchronised. -/
theorem stale_after_broken : ¬ ∀ (s : Substrate) (databag : String → Option String) (written : Option File)
    (run : List Dispatch), ∀ past d rest, run = past ++ d :: rest →
      FreshDispatch s (after s databag written past) d := by
  intro always
  have fresh := always .k8s (fun _ => none) none [created,broken] [created] broken [] rfl
  have deferred : (after .k8s (fun _ => none) none [created]).deferred = [.relationCreated] := by decide +kernel
  refine (freshDispatch_iff .k8s (after_created .k8s _ _ _) broken).mp fresh ⟨?_,rfl,rfl,?_⟩
  · refine ⟨⟨.relationCreated,calm true⟩,?_,rfl,rfl⟩
    rw [Dispatch.deferred,deferred]
    simp [broken]
  · rw [Dispatch.emissions,Dispatch.deferred,deferred]
    exact ⟨passes_calm .k8s true _ _ _,passes_calm .k8s true _ _ _,trivial⟩

end MysqlOperators.LogRotation
