import MysqlOperators.Config
import MysqlOperators.DomainName
import MysqlOperators.LogRotation
import MysqlOperators.Validation

/-!
The options of the charm and `CharmConfig`, the model that they are validated with. Juju
delivers an option with the type that `config.yaml` gives it, and leaves out the options
that are neither set nor have a default.
-/
namespace MysqlOperators.CharmOptions
open MysqlOperators.Config (Profile AuditPolicy AuditStrategy)
open MysqlOperators.DomainName (nameChar)
open MysqlOperators.External (Exn Substrate)
open MysqlOperators.LogRotation (Retention LogsConfig)
open MysqlOperators.Program MysqlOperators.Program.Prog MysqlOperators.Scripted

/-! ### Fields -/

/-- What a field comes to; an error has the name of the field and a message. Errors other
    than of values are not collected. -/
abbrev Field := Validation (String × String) Exn

/-- A field with a validator that fails with a message. -/
def checked {α : Type} (field : String) (validator : α → Option String) (value : α) : Field α :=
  match validator value with
  | none => .valid value
  | some message => .invalid [(field,message)]

/-- A validator is not called for a field that is left out. -/
def optional {α : Type} (check : α → Field α) : Option α → Field (Option α)
  | none => pure none
  | some value => some <$> check value

theorem optional_some {α : Type} (check : α → Field α) (value : α) :
    optional check (some value) = some <$> check value := rfl

/-- `'a', 'b' or 'c'`. -/
def expected : List String → String
  | [] => ""
  | [last] => "'" ++ last ++ "'"
  | [first,last] => "'" ++ first ++ "' or '" ++ last ++ "'"
  | first :: rest => "'" ++ first ++ "', " ++ expected rest

/-- A field of an enumeration or of a literal. -/
def member {α : Type} (field : String) (members : List (String × α)) (value : String) : Field α :=
  match members.lookup value with
  | some a => .valid a
  | none => .invalid [(field,"Input should be " ++ expected (members.map Prod.fst))]

/-! ### The model -/

inductive RefreshPause where
  | all
  | first
  | none
deriving DecidableEq, Repr

/-- The options, with the types of `config.yaml`. -/
structure Options where
  clusterName : Option String
  clusterSetName : Option String
  maxConnections : Option Int
  profile : String
  profileLimitMemory : Option Int
  pluginAuditEnabled : Bool
  pluginAuditStrategy : String
  binlogRetentionDays : Int
  logsAuditPolicy : String
  logsRetentionPeriod : String
  pauseAfterUnitRefresh : String
  tlsClientPrivateKey : Option String
  tlsPeerPrivateKey : Option String
deriving DecidableEq, Repr

/-- The defaults of `config.yaml`. -/
def defaults : Options where
  clusterName := none
  clusterSetName := none
  maxConnections := none
  profile := "production"
  profileLimitMemory := none
  pluginAuditEnabled := true
  pluginAuditStrategy := "asynchronous"
  binlogRetentionDays := 7
  logsAuditPolicy := "logins"
  logsRetentionPeriod := "auto"
  pauseAfterUnitRefresh := "first"
  tlsClientPrivateKey := none
  tlsPeerPrivateKey := none

/-- `str | int`. -/
inductive StrOrInt where
  | str (text : String)
  | int (n : Int)
deriving DecidableEq, Repr

structure CharmConfig where
  clusterName : Option String
  clusterSetName : Option String
  maxConnections : Option Int
  profile : Profile
  profileLimitMemory : Option Int
  binlogRetentionDays : Int
  logsRetentionPeriod : StrOrInt
  logsAuditPolicy : AuditPolicy
  pluginAuditEnabled : Bool
  pluginAuditStrategy : AuditStrategy
  pauseAfterUnitRefresh : RefreshPause
  tlsClientPrivateKey : Option String
  tlsPeerPrivateKey : Option String
deriving DecidableEq, Repr

def profiles : List (String × Profile) := [("production",.prod),("testing",.test)]

def auditPolicies : List (String × AuditPolicy) :=
  [AuditPolicy.all,.logins,.queries].map fun policy => (policy.value,policy)

def auditStrategies : List (String × AuditStrategy) :=
  [AuditStrategy.async,.perf,.semi,.sync].map fun strategy => (strategy.value,strategy)

def refreshPauses : List (String × RefreshPause) := [("all",.all),("first",.first),("none",.none)]

/-- `str.isalpha` of a single character; of the characters beyond ASCII the letters of
    all scripts are alphabetic. -/
structure Letters where
  isAlpha : Char → Bool
  ascii : ∀ c, c.toNat < 128 → isAlpha c = c.isAlpha

/-- `re.match(r"^[a-zA-Z0-9-_.]*$", value)`. A dollar sign also matches before a line end
    at the end of the text. -/
def namePattern (value : List Char) : Bool :=
  value.dropWhile nameChar == [] || value.dropWhile nameChar == ['\n']

def clusterNameValidator (letters : Letters) (field value : String) : Field String :=
  if value.length > 63 then .invalid [(field,"cluster / cluster-set name must be at most 63 chars long")]
  else match value.toList with
    | [] => .raised ⟨.lookupError,"string index out of range"⟩
    | first :: _ =>
      if !letters.isAlpha first then .invalid [(field,"cluster / cluster-set name must start with a letter")]
      else if !namePattern value.toList then
        .invalid [(field,"cluster / cluster-set name must contain only alphanumeric chars")]
      else .valid value

def logsRetentionPeriodValidator (value : StrOrInt) : Option String :=
  match value with
  | .str text =>
    if text ≠ "auto" then some "logs-retention-period must be integer greater than 0 or `auto`" else none
  | .int n =>
    if ¬ (0 < n ∧ n < 999) then some "logs-retention-period must be integer greater than 0 or `auto`" else none

/-- A text is an instance of the first member of the union, so it stays a text. -/
def smart (text : String) : StrOrInt := .str text

/-- `config_type(**translated_keys)`, in the order in which the model declares its fields. -/
def charmConfig (letters : Letters) (o : Options) : Field CharmConfig :=
  CharmConfig.mk <$> optional (clusterNameValidator letters "cluster_name") o.clusterName
    <*> optional (clusterNameValidator letters "cluster_set_name") o.clusterSetName
    <*> checked "max_connections" Config.CharmConfig.maxConnectionsValidator o.maxConnections
    <*> member "profile" profiles o.profile
    <*> checked "profile_limit_memory" Config.CharmConfig.profileLimitMemoryValidator o.profileLimitMemory
    <*> checked "binlog_retention_days" Config.CharmConfig.binlogRetentionDaysValidator o.binlogRetentionDays
    <*> checked "logs_retention_period" logsRetentionPeriodValidator (smart o.logsRetentionPeriod)
    <*> member "logs_audit_policy" auditPolicies o.logsAuditPolicy
    <*> pure o.pluginAuditEnabled
    <*> member "plugin_audit_strategy" auditStrategies o.pluginAuditStrategy
    <*> member "pause_after_unit_refresh" refreshPauses o.pauseAfterUnitRefresh
    <*> pure o.tlsClientPrivateKey
    <*> pure o.tlsPeerPrivateKey

/-- The part of the configuration that the server is configured with. -/
def CharmConfig.server (c : CharmConfig) : Config.CharmConfig :=
  ⟨c.maxConnections,c.profile,c.profileLimitMemory,c.binlogRetentionDays,c.logsAuditPolicy,c.pluginAuditEnabled,
    c.pluginAuditStrategy⟩

theorem isValid_checked {α : Type} (field : String) (validator : α → Option String) (value : α) :
    (checked field validator value).isValid = (validator value).isNone := by
  unfold checked
  cases validator value <;> rfl

theorem isRaised_checked {α : Type} (field : String) (validator : α → Option String) (value : α) :
    (checked field validator value).isRaised = false := by
  unfold checked
  cases validator value <;> rfl

theorem checked_eq_valid {α : Type} {field : String} {validator : α → Option String} {value accepted : α} :
    checked field validator value = .valid accepted ↔ validator value = none ∧ value = accepted := by
  unfold checked
  cases validator value <;> simp

theorem defaults_valid (letters : Letters) : (charmConfig letters defaults).isValid = true := rfl

/-- What the validators have passed, and what the text of the retention has become. -/
theorem charmConfig_validated {letters : Letters} {o : Options} {c : CharmConfig}
    (passes : charmConfig letters o = .valid c) :
    c.server.Accepted ∧ logsRetentionPeriodValidator c.logsRetentionPeriod = none ∧
      c.logsRetentionPeriod = smart o.logsRetentionPeriod := by
  simp only [charmConfig,Validation.seq_eq_valid,Validation.map_eq_valid,Validation.pure_eq_valid,checked_eq_valid,
    ↓existsAndEq,exists_and_left,and_assoc,true_and] at passes
  obtain ⟨_,_,_,_,connections,_,_,limit,days,retention,_,_,_,_,_,_,rfl⟩ := passes
  refine ⟨?_,retention,rfl⟩
  simp [CharmConfig.server,Config.CharmConfig.Accepted,Config.CharmConfig.errors,connections,limit,days]

/-! ### Names -/

/-- A name of a cluster, or of a cluster-set. -/
structure IsName (value : String) : Prop where
  nonempty : 0 < value.length
  short : value.length ≤ 63
  starts : ∀ c, value.toList.head? = some c → c.isAlpha = true
  plain : ∀ c ∈ value.toList, nameChar c = true

theorem isName_of {value : String} {first : Char} (head : value.toList.head? = some first)
    (letter : first.isAlpha = true) (short : value.length ≤ 63) (plain : ∀ c ∈ value.toList, nameChar c = true) : IsName value := by
  refine ⟨?_,short,fun c same => ?_,plain⟩
  · rw [← String.length_toList]
    exact List.length_pos_of_mem (List.mem_of_mem_head? head)
  · obtain rfl := Option.some.inj (head.symm.trans same)
    exact letter

theorem IsName.head {value : String} (name : IsName value) : ∃ first, value.toList.head? = some first := by
  refine ⟨_,List.head?_eq_some_head (List.ne_nil_of_length_pos ?_)⟩
  rw [String.length_toList]
  exact name.nonempty

theorem nameChar_ascii {c : Char} (plain : nameChar c = true) : c.toNat < 128 := by
  have ascii (last : Char) (below : c.val ≤ last.val) (plain : last.toNat < 128) : c.toNat < 128 :=
    Nat.lt_of_le_of_lt (UInt32.le_iff_toNat_le.mp below) plain
  simp only [nameChar,Char.isAlphanum,Bool.or_eq_true,beq_iff_eq] at plain
  rcases plain with (((letter | digit) | rfl) | rfl) | rfl
  · rcases Bool.or_eq_true_iff.mp letter with upper | lower
    · exact ascii 'Z' (of_decide_eq_true upper).2 (by decide)
    · exact ascii 'z' (of_decide_eq_true (Bool.and_eq_true_iff.mp lower).2) (by decide)
  · exact ascii '9' (of_decide_eq_true (Bool.and_eq_true_iff.mp digit).2) (by decide)
  · decide
  · decide
  · decide

theorem namePattern_first {first : Char} {rest : List Char} (matched : namePattern (first :: rest) = true) :
    first.toNat < 128 := by
  by_cases plain : nameChar first = true
  · exact nameChar_ascii plain
  · obtain ⟨rfl,rfl⟩ : first = '\n' ∧ rest = [] := by
      simpa [namePattern,List.dropWhile_cons,plain] using matched
    decide

theorem namePattern_iff {text : List Char} : namePattern text = true ↔
    (∀ c ∈ text, nameChar c = true) ∨ ∃ front, (∀ c ∈ front, nameChar c = true) ∧ text = front ++ ['\n'] := by
  simp only [namePattern,Bool.or_eq_true,beq_iff_eq,List.dropWhile_eq_nil_iff]
  refine or_congr_right ⟨fun stops => ⟨text.takeWhile nameChar,fun c => List.mem_takeWhile_imp,?_⟩,?_⟩
  · rw [← stops,List.takeWhile_append_dropWhile]
  · rintro ⟨front,plain,rfl⟩
    rw [List.dropWhile_append_of_pos plain]
    rfl

/-- The validator refuses a letter of another script in the end. -/
theorem isValid_clusterName (letters : Letters) (field value : String) :
    (clusterNameValidator letters field value).isValid = DomainName.clusterNameValidator value := by
  by_cases long : value.length > 63
  · simp [clusterNameValidator,DomainName.clusterNameValidator,long,Nat.not_le.mpr long,Validation.isValid]
  · have pattern : (value.toList.dropWhile nameChar == [] || value.toList.dropWhile nameChar == ['\n']) =
        namePattern value.toList := rfl
    simp only [clusterNameValidator,DomainName.clusterNameValidator,long,Nat.le_of_not_gt long,pattern,if_false]
    cases value.toList with
    | nil => rfl
    | cons first rest =>
      by_cases matched : namePattern (first :: rest) = true
      · have letter := letters.ascii first (namePattern_first matched)
        cases alpha : first.isAlpha <;> simp [letter,alpha,matched,Validation.isValid]
      · cases alpha : letters.isAlpha first <;> simp [alpha,matched,Validation.isValid]

theorem isRaised_clusterName (letters : Letters) (field value : String) :
    (clusterNameValidator letters field value).isRaised = decide (value = "") := by
  by_cases empty : value = ""
  · subst empty
    rfl
  · rw [clusterNameValidator]
    split
    · simp [empty,Validation.isRaised]
    · split
      · rename_i nil
        exact absurd (String.toList_eq_nil_iff.mp nil) empty
      · split
        · simp [empty,Validation.isRaised]
        · split <;> simp [empty,Validation.isRaised]

/-- A line end behind a name is accepted. -/
theorem isValid_clusterName_iff (letters : Letters) (field value : String) :
    (clusterNameValidator letters field value).isValid = true ↔
      IsName value ∨ ∃ name, IsName name ∧ name.length ≤ 62 ∧ value = name ++ "\n" := by
  rw [isValid_clusterName,DomainName.clusterNameValidator,Bool.and_eq_true,Bool.and_eq_true,decide_eq_true_eq,
    Option.any_eq_true]
  change (_ ∧ _) ∧ namePattern value.toList = true ↔ _
  rw [namePattern_iff]
  constructor
  · rintro ⟨⟨short,first,head,letter⟩,plain | ⟨front,plain,text⟩⟩
    · exact .inl (isName_of head letter short plain)
    · have starts : front.head? = some first := by
        cases front with
        | nil =>
          obtain rfl : '\n' = first := by simpa [text] using head
          cases letter
        | cons c rest => simpa [text] using head
      have length : value.length = front.length + 1 := by rw [← String.length_toList,text]; simp
      refine .inr ⟨String.ofList front,?_,by simp; omega,String.toList_injective (by simp [text])⟩
      exact isName_of (by simpa using starts) letter (by simp; omega) (by simpa using plain)
  · rintro (name | ⟨name,valid,short,rfl⟩)
    · obtain ⟨first,head⟩ := name.head
      exact ⟨⟨name.short,first,head,name.starts first head⟩,.inl name.plain⟩
    · obtain ⟨first,head⟩ := valid.head
      refine ⟨⟨by rw [String.length_append]; exact Nat.succ_le_succ short,first,?_,valid.starts first head⟩,
        .inr ⟨name.toList,valid.plain,by simp⟩⟩
      simp [head]

/-- The options that are validated as names. -/
inductive NameField where
  | clusterName
  | clusterSetName
deriving DecidableEq, Repr

def NameField.key : NameField → String
  | clusterName => "cluster_name"
  | clusterSetName => "cluster_set_name"

def NameField.set (o : Options) (value : String) : NameField → Options
  | clusterName => { o with clusterName := some value }
  | clusterSetName => { o with clusterSetName := some value }

/-- In a configuration that is valid otherwise, the validator of the name decides. -/
theorem charmConfig_set {letters : Letters} {o : Options} (passes : (charmConfig letters o).isValid = true)
    (field : NameField) (value : String) :
    (charmConfig letters (field.set o value)).isValid = (clusterNameValidator letters field.key value).isValid ∧
      (charmConfig letters (field.set o value)).isRaised = (clusterNameValidator letters field.key value).isRaised := by
  have calm := Validation.not_raised passes
  simp only [charmConfig,Validation.isValid_seq,Validation.isValid_map,Validation.isRaised_seq,Validation.isRaised_map,
    Bool.and_eq_true,Bool.or_eq_false_iff] at passes calm
  cases field with
  | clusterName => simp [charmConfig,NameField.set,NameField.key,optional_some,passes,calm]
  | clusterSetName => simp [charmConfig,NameField.set,NameField.key,optional_some,passes,calm]

/-- The names are accepted, and every other text is an error of validation. -/
def FollowsGrammar (letters : Letters) (value : String) : Prop :=
  ∀ o, (charmConfig letters o).isValid = true → ∀ field : NameField,
    ((charmConfig letters (field.set o value)).isValid = true ↔ IsName value) ∧
    (¬ IsName value → (charmConfig letters (field.set o value)).isInvalid = true)

theorem not_isName_empty : ¬ IsName "" := fun name => absurd name.nonempty (by decide)

theorem not_isName_lineEnd (name : String) : ¬ IsName (name ++ "\n") :=
  fun valid => absurd (valid.plain '\n' (by simp)) (by decide)

/-- An empty text raises `IndexError`, and a line end behind a name goes unnoticed. -/
theorem followsGrammar_iff (letters : Letters) (value : String) : FollowsGrammar letters value ↔
    value ≠ "" ∧ ¬ ∃ name, IsName name ∧ name.length ≤ 62 ∧ value = name ++ "\n" := by
  constructor
  · intro follows
    obtain ⟨accepts,rejects⟩ := follows defaults (defaults_valid letters) .clusterName
    obtain ⟨valid,raised⟩ := charmConfig_set (defaults_valid letters) .clusterName value
    rw [valid,isValid_clusterName_iff] at accepts
    refine ⟨?_,?_⟩
    · rintro rfl
      have invalid := (Validation.isInvalid_iff.mp (rejects not_isName_empty)).2
      rw [raised,isRaised_clusterName] at invalid
      simp at invalid
    · rintro ⟨name,isName,short,rfl⟩
      exact not_isName_lineEnd name (accepts.mp (.inr ⟨name,isName,short,rfl⟩))
  · rintro ⟨nonempty,single⟩ o passes field
    obtain ⟨valid,raised⟩ := charmConfig_set passes field value
    have accepts : (charmConfig letters (field.set o value)).isValid = true ↔ IsName value := by
      rw [valid,isValid_clusterName_iff,or_iff_left single]
    refine ⟨accepts,fun other => Validation.isInvalid_iff.mpr ⟨?_,?_⟩⟩
    · exact Bool.eq_false_iff.mpr (fun passed => other (accepts.mp passed))
    · rw [raised,isRaised_clusterName]
      simp [nonempty]

def latin : Letters := ⟨Char.isAlpha,fun _ _ => rfl⟩

theorem not_followsGrammar_lineEnd : ¬ FollowsGrammar latin "cluster\n" ∧ ¬ FollowsGrammar latin "" := by
  refine ⟨fun follows => ?_,fun follows => ?_⟩
  · have accepts := (follows defaults (defaults_valid latin) .clusterName).1
    exact not_isName_lineEnd "cluster" (accepts.mp (by decide +kernel))
  · have rejects := (follows defaults (defaults_valid latin) .clusterName).2 not_isName_empty
    exact absurd rejects (by decide +kernel)

/-! ### The retention of the logs -/

/-- The retention that `_update_config` reads. -/
def retention : StrOrInt → Option Retention
  | .str text => if text = "auto" then some .auto else none
  | .int n => if days : 0 < n.toNat ∧ n.toNat < 999 then some (.days ⟨n.toNat,days⟩) else none

/-- The part of the configuration that the file of logrotate depends on. -/
def CharmConfig.logs (c : CharmConfig) : Option LogsConfig :=
  (retention c.logsRetentionPeriod).map (⟨·,c.pluginAuditEnabled⟩)

/-- Nothing that is accepted is without a retention. -/
theorem retention_isSome (value : StrOrInt) :
    (retention value).isSome = (logsRetentionPeriodValidator value).isNone := by
  cases value with
  | str text => by_cases auto : text = "auto" <;> simp [retention,logsRetentionPeriodValidator,auto]
  | int n =>
    have same : (0 < n.toNat ∧ n.toNat < 999) ↔ 0 < n ∧ n < 999 := by omega
    simp only [retention,logsRetentionPeriodValidator,same]
    by_cases days : 0 < n ∧ n < 999 <;> simp [days]

def Options.retaining (o : Options) (value : String) : Options := { o with logsRetentionPeriod := value }

/-- A text stays a text, and of these only one is accepted. -/
theorem charmConfig_retaining {letters : Letters} {o : Options} (passes : (charmConfig letters o).isValid = true)
    (value : String) :
    (charmConfig letters (o.retaining value)).isValid = decide (value = "auto") ∧
      (charmConfig letters (o.retaining value)).isRaised = false := by
  have calm := Validation.not_raised passes
  simp only [charmConfig,Validation.isValid_seq,Validation.isValid_map,Validation.isRaised_seq,Validation.isRaised_map,
    Bool.and_eq_true,Bool.or_eq_false_iff] at passes calm
  have period : (logsRetentionPeriodValidator (.str value)).isNone = decide (value = "auto") := by
    by_cases auto : value = "auto" <;> simp [logsRetentionPeriodValidator,auto]
  simp [charmConfig,Options.retaining,smart,isValid_checked,isRaised_checked,period,passes,calm]

/-- The whole file, with the days and the number of files that are kept of each log. -/
def Keeps (s : Substrate) (auditEnabled : Bool) (file : LogRotation.File) (days files : Nat) : Prop :=
  ∃ compress, file.data = LogRotation.front s ++ toString days ++ LogRotation.rotate files ++
    LogRotation.compression compress ++ LogRotation.behind ++
    String.join ((LogRotation.logTypes auditEnabled).map (LogRotation.block s))

/-- Whenever `_update_config` returns, the file that it has written keeps the logs for so
    many days. -/
def KeepsLogs (c : CharmConfig) (n : Nat) : Prop :=
  ∀ (s : Substrate) (script : Script LogRotation.Call LogRotation.Reply Exn) (cache : Option Bool)
    (w : LogRotation.World) (cached : Bool) (after : Scene LogRotation.World LogRotation.Call),
    c.logs = some w.config →
    run (respond LogRotation.rules script) (LogRotation.updateConfig s cache) ⟨w,[]⟩ = (.ok cached,after) →
    ∃ file, after.world.written = some file ∧ Keeps s c.pluginAuditEnabled file n (n * 24 * 60)

theorem keepsLogs_int {c : CharmConfig} {n : Nat} (days : c.logsRetentionPeriod = .int n) : KeepsLogs c n := by
  intro s script cache w cached after logs ran
  have configured : w.config.pluginAuditEnabled = c.pluginAuditEnabled ∧
      ∀ synchronized, w.config.logsRetentionPeriod.daysFor synchronized = n := by
    simp only [CharmConfig.logs,days,retention,Int.toNat_natCast] at logs
    split at logs
    · rw [← Option.some.inj logs]
      exact ⟨rfl,fun _ => rfl⟩
    · cases logs
  rcases LogRotation.run_updateConfig s script (fun _ _ _ _ => List.count_nil) cache w _ _ rfl rfl with
    ⟨-,log',returns,-⟩ | ⟨-,e,ended,fails⟩
  · rw [returns] at ran
    cases ran
    refine ⟨_,rfl,cache.getD (LogRotation.synced (w.databag LogRotation.syncKey)),?_⟩
    rw [LogRotation.fileFor,LogRotation.rendered,LogRotation.settingsFor,configured.1,configured.2]
  · rw [fails] at ran
    cases ran

/-- A number of days that is not too large. -/
def IsDays (least : Nat) (value : String) : Prop := ∃ n : Nat, least ≤ n ∧ n < 999 ∧ value = toString n

/-- What `config.yaml` documents is accepted, what is no positive number of days is not, and
    an accepted number is the one that the logs are kept for. -/
structure ConfiguresRetention (letters : Letters) (value : String) : Prop where
  accepts : value = "auto" ∨ IsDays 3 value → ∀ o, (charmConfig letters o).isValid = true →
    (charmConfig letters (o.retaining value)).isValid = true
  rejects : ¬ (value = "auto" ∨ IsDays 1 value) → ∀ o, (charmConfig letters o).isValid = true →
    (charmConfig letters (o.retaining value)).isInvalid = true
  keeps : ∀ (c : CharmConfig) (n : Nat), logsRetentionPeriodValidator c.logsRetentionPeriod = none →
    c.logsRetentionPeriod = .int n ∨ c.logsRetentionPeriod = .str (toString n) → KeepsLogs c n

theorem toString_ne_auto (n : Nat) : toString n ≠ "auto" := by
  intro same
  have number := Python.number_toString n
  have none : Python.number "auto".toList = none := by decide
  rw [same,none] at number
  cases number

/-- No number of days is accepted. -/
theorem configuresRetention_iff (letters : Letters) (value : String) :
    ConfiguresRetention letters value ↔ ¬ IsDays 3 value := by
  constructor
  · rintro ⟨accepts,-,-⟩ ⟨n,least,most,rfl⟩
    have accepted := accepts (.inr ⟨n,least,most,rfl⟩) defaults (defaults_valid letters)
    rw [(charmConfig_retaining (defaults_valid letters) _).1] at accepted
    exact toString_ne_auto n (of_decide_eq_true accepted)
  · intro other
    refine ⟨?_,?_,?_⟩
    · rintro (auto | days) o passes
      · rw [(charmConfig_retaining passes value).1]
        exact decide_eq_true auto
      · exact absurd days other
    · intro neither o passes
      obtain ⟨valid,raised⟩ := charmConfig_retaining passes value
      refine Validation.isInvalid_iff.mpr ⟨?_,raised⟩
      rw [valid]
      exact decide_eq_false (fun auto => neither (.inl auto))
    · rintro c n accepted (days | text)
      · exact keepsLogs_int days
      · rw [text] at accepted
        have refused : logsRetentionPeriodValidator (.str (toString n)) ≠ none := by
          rw [logsRetentionPeriodValidator,if_pos (toString_ne_auto n)]
          nofun
        exact absurd accepted refused

/-- Two weeks, as the documentation sets them. -/
theorem not_configuresRetention_fourteen : ¬ ConfiguresRetention latin "14" := by
  rintro ⟨accepts,-,-⟩
  have accepted := accepts (.inr ⟨14,by decide,by decide,rfl⟩) defaults (defaults_valid latin)
  exact absurd accepted (by decide +kernel)

end MysqlOperators.CharmOptions
