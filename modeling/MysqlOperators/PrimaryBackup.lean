import MysqlOperators.Isolation

/-!
The create-backup action on the primary. The script decides how every call ends; a
query that is answered tells the truth about a primary among several members. The
action goes on to isolate its instance only if the members could not be counted.
-/
namespace MysqlOperators.PrimaryBackup
open MysqlOperators.Program MysqlOperators.Program.Prog MysqlOperators.External MysqlOperators.Clients
open MysqlOperators.Python MysqlOperators.Workload MysqlOperators.Helpers MysqlOperators.Quiet MysqlOperators.Scripted
open MysqlOperators.Backup MysqlOperators.BackupReport MysqlOperators.Isolation
set_option linter.unusedSimpArgs false

/-- What the queries answer on the primary of a cluster with more than one member. -/
structure PrimaryAmongMany (script : Script Call Reply Exn) : Prop where
  members : ∀ n members, script.reply (.searchMembers .own []) n = .ok members → 1 < members.length
  role : ∀ n role, script.reply (.instanceRole .own) n = .ok role → role = some .primary

/-! ### The steps before the isolation -/

section
variable (script : Script Call Reply Exn)

/-- The members cannot be counted. -/
def CountFails : Prop := ∃ e, script.reply (.searchMembers .own []) 0 = .error e ∧ e.isExecutionError = true

def Running : Substrate → Prop
  | .vm => script.reply .snapPresent 0 = .ok true ∧ script.reply .snapServiceActive 0 = .ok true
  | .k8s => script.reply .canConnect 0 = .ok true ∧ script.reply (.serviceRunning ServerService.name) 0 = .ok (some true)

def runningCalls : Substrate → List Call
  | .vm => [.snapPresent,.snapServiceActive]
  | .k8s => [.canConnect,.serviceRunning ServerService.name]

def Initialized (s : Substrate) : Prop :=
  Running script s ∧ ∃ labels name, script.reply (.clusterLabels .own) 0 = .ok labels ∧
    script.reply (.appData "cluster-name") 0 = .ok name ∧ labels.contains ((nonEmpty name).getD "") = true

def initializedCalls (s : Substrate) : List Call := runningCalls s ++ [.clusterLabels .own,.appData "cluster-name"]

/-- No instance of a topology that was read is in progress, and the status is good. -/
def ClusterHealthy : Prop :=
  (match script.reply (.clusterStatus .own) 0 with
    | .ok report => report.topology.find? (fun entry => checkCluster.inProgress entry.2) = none
    | .error e => e.isExecutionError = true) ∧
  ∃ report, script.reply (.clusterStatus .own) 1 = .ok report ∧ (report.status = .ok ∨ report.status = .okPartial)

def InstanceHealthy : Prop :=
  (∃ role, script.reply (.instanceRole .own) 0 = .ok role) ∧ script.reply (.instanceState .own) 0 = .ok (some .online)

def checkCalls : List Call :=
  [.clusterStatus .own,.clusterStatus .own,.searchMembers .own [],.instanceRole .own,.instanceState .own]

/-- The calls of `upload_file` succeed; one file for the certificates, if there are
    any, and one for the contents. -/
def Uploads (storage : BackupStorage) (contents path : String) : Prop :=
  match nonEmpty storage.caChain with
  | none => ∃ file, script.reply (.createTemporary contents) 0 = .ok file ∧
      script.reply (.buildBackupClient none) 0 = .ok () ∧
      script.reply (.uploadFile storage.bucketName (some file) path) 0 = .ok () ∧ script.reply (.unlink file) 0 = .ok ()
  | some chain => ∃ chainFile file, script.reply (.createTemporary chain) 0 = .ok chainFile ∧
      script.reply (.createTemporary contents) (if chain = contents then 1 else 0) = .ok file ∧
      script.reply (.buildBackupClient (some chainFile)) 0 = .ok () ∧
      script.reply (.uploadFile storage.bucketName (some file) path) 0 = .ok () ∧
      script.reply (.unlink file) 0 = .ok () ∧ script.reply (.unlink chainFile) (if file = chainFile then 1 else 0) = .ok ()

/-- The text of `_build_backup_metadata`. -/
def metadataText (charm : Charm) (requestTime model juju : String) : String :=
  "Date Backup Requested: " ++ requestTime ++ "\n" ++ "Model Name: " ++ model ++ "\n" ++
    "App Name: " ++ charm.appName ++ "\n" ++ "Unit Name: " ++ unitName charm.appName charm.unit ++ "\n" ++
    "Juju Version: " ++ juju ++ "\n"

def MetadataUploaded (charm : Charm) (m : BackupManager) : Prop :=
  ∃ t storage model juju, script.reply .requestTime 0 = .ok t ∧ m.storage = some storage ∧
    script.reply .modelName 0 = .ok model ∧ script.reply .jujuVersion 0 = .ok juju ∧
    Uploads script storage (metadataText charm (String.ofList (strftime t)) model juju)
      (storage.bucketPath ++ "/" ++ String.ofList (strftime t) ++ ".metadata")

/-- Apart from the count of the members, every step lets the action go on. -/
structure GoesOn (charm : Charm) (m : BackupManager) : Prop where
  related : script.reply (.relation relationBackups) 0 = .ok true
  initialized : Initialized script charm.substrate
  settled : script.reply .refreshing 0 = .ok false
  cluster : ClusterHealthy script
  instance_ : InstanceHealthy script
  uploaded : MetadataUploaded script charm m

end

/-! ### The run of the steps -/

section
variable {script : Script Call Reply Exn} {w : Settings} {log : List Call}

theorem ask_iff {c : Call} (other : isolates c = false) {n : Nat} (count : log.count c = n) {a : Reply c}
    {s : Scene Settings Call} : run (respond rules script) (ask c) ⟨w,log⟩ = (.ok a,s) ↔
      script.reply c n = .ok a ∧ s = ⟨w,log ++ [c]⟩ := by
  rw [run_perform,respond_other (by simp [Isolates,other]),Prod.mk.injEq,eq_comm (b := s),count]

theorem ask_bind_iff {β : Type} {c : Call} (other : isolates c = false) {n : Nat} (count : log.count c = n)
    {f : Reply c → Hook β} {b : β} {s : Scene Settings Call} :
    run (respond rules script) (ask c >>= f) ⟨w,log⟩ = (.ok b,s) ↔
      ∃ a, script.reply c n = .ok a ∧ run (respond rules script) (f a) ⟨w,log ++ [c]⟩ = (.ok b,s) := by
  rw [run_bind_eq_ok_iff]
  constructor
  · rintro ⟨a,v,asked,rest⟩
    obtain ⟨answer,rfl⟩ := (ask_iff other count).mp asked
    exact ⟨a,answer,rest⟩
  · rintro ⟨a,answer,rest⟩
    exact ⟨a,_,(ask_iff other count).mpr ⟨answer,rfl⟩,rest⟩

/-- A call that is new stays new after others. -/
theorem count_later {c : Call} (calls : List Call) (new : log.count c = 0) (other : c ∉ calls) :
    (log ++ calls).count c = 0 := by
  rw [List.count_append,new,List.count_eq_zero.mpr other]

theorem running_iff {k : Substrate} (new : ∀ c ∈ runningCalls k, log.count c = 0) {s : Scene Settings Call} :
    run (respond rules script) (ServerService.running k) ⟨w,log⟩ = (.ok true,s) ↔
      Running script k ∧ s = ⟨w,log ++ runningCalls k⟩ := by
  cases k with
  | vm =>
    have first := new .snapPresent (by simp [runningCalls])
    have second := count_later [.snapPresent] (new .snapServiceActive (by simp [runningCalls])) (by simp)
    rw [ServerService.running,ask_bind_iff rfl first,Bool.exists_bool]
    simp only [Bool.false_eq_true,if_false,if_true,ask_iff (c := .snapServiceActive) rfl second]
    simp [Running,runningCalls,and_assoc]
  | k8s =>
    have first := new .canConnect (by simp [runningCalls])
    have second := count_later [.canConnect] (new (.serviceRunning ServerService.name) (by simp [runningCalls])) (by simp)
    rw [ServerService.running,ask_bind_iff rfl first,Bool.exists_bool]
    simp only [Bool.false_eq_true,if_false,if_true,ask_bind_iff (c := .serviceRunning ServerService.name) rfl second]
    constructor
    · rintro (⟨_,ended⟩ | ⟨connected,running,asked,rest⟩)
      · cases ended
      · cases running with
        | none => cases rest
        | some b =>
          cases rest
          exact ⟨⟨connected,asked⟩,by simp [runningCalls]⟩
    · rintro ⟨⟨connected,asked⟩,rfl⟩
      exact .inr ⟨connected,_,asked,by simp [runningCalls]⟩

/-- The list of labels contains a name only if it was answered. -/
theorem labelled_iff (labels : log.count (.clusterLabels .own) = 0) (name : log.count (.appData "cluster-name") = 0)
    {s : Scene Settings Call} :
    run (respond rules script) (InstanceClient.fetchClusterLabels.tryElse Exn.isExecutionError (fun _ => pure false)
      fun labels => do
        let name ← clusterName
        pure (labels.contains name)) ⟨w,log⟩ = (.ok true,s) ↔
      (∃ labels name, script.reply (.clusterLabels .own) 0 = .ok labels ∧
        script.reply (.appData "cluster-name") 0 = .ok name ∧ labels.contains ((nonEmpty name).getD "") = true) ∧
        s = ⟨w,log ++ [.clusterLabels .own,.appData "cluster-name"]⟩ := by
  have later := count_later [.clusterLabels .own] name (by simp)
  have fetch : ∀ found (v : Scene Settings Call),
      run (respond rules script) (ask (.clusterLabels .own)) ⟨w,log⟩ = (.ok found,v) ↔
        script.reply (.clusterLabels .own) 0 = .ok found ∧ v = ⟨w,log ++ [.clusterLabels .own]⟩ :=
    fun found v => ask_iff rfl labels
  have read : ∀ found : List String, ∀ v : Scene Settings Call, v = ⟨w,log ++ [.clusterLabels .own]⟩ →
      (run (respond rules script) (do let name ← clusterName; pure (found.contains name) : Hook Bool) v = (.ok true,s) ↔
        ∃ name, script.reply (.appData "cluster-name") 0 = .ok name ∧ found.contains ((nonEmpty name).getD "") = true ∧
          s = ⟨w,log ++ [.clusterLabels .own,.appData "cluster-name"]⟩) := by
    rintro found _ rfl
    rw [clusterName,bind_assoc,ask_bind_iff rfl later]
    simp only [pure_bind,run_pure,Prod.mk.injEq,Except.ok.injEq,List.append_assoc,List.cons_append,List.nil_append,
      eq_comm (b := s)]
  rw [run_tryElse_eq_ok_iff,InstanceClient.fetchClusterLabels,tryExcept]
  constructor
  · rintro (⟨found,v,asked,rest⟩ | ⟨_,_,_,_,ended⟩)
    · rcases (run_tryElse_eq_ok_iff _).mp asked with ⟨found',v',asked,same⟩ | ⟨e,v',_,_,same⟩
      · cases same
        obtain ⟨answer,rfl⟩ := (fetch _ _).mp asked
        obtain ⟨name,named,member,rfl⟩ := (read _ _ rfl).mp rest
        exact ⟨⟨_,name,answer,named,member⟩,rfl⟩
      · cases same
        obtain ⟨name,_,_,ended⟩ := (run_bind_eq_ok_iff _).mp rest
        cases ended
    · cases ended
  · rintro ⟨⟨found,name,answer,named,member⟩,rfl⟩
    refine .inl ⟨found,_,?_,(read _ _ rfl).mpr ⟨name,named,member,rfl⟩⟩
    exact (run_tryElse_eq_ok_iff _).mpr (.inl ⟨found,_,(fetch _ _).mpr ⟨answer,rfl⟩,rfl⟩)

theorem initialized_iff {charm : Charm} (new : ∀ c ∈ initializedCalls charm.substrate, log.count c = 0)
    {s : Scene Settings Call} : run (respond rules script) (initialized charm) ⟨w,log⟩ = (.ok true,s) ↔
      Initialized script charm.substrate ∧ s = ⟨w,log ++ initializedCalls charm.substrate⟩ := by
  have absent : ∀ c, c ∈ [Call.clusterLabels .own,.appData "cluster-name"] → c ∉ runningCalls charm.substrate := by
    intro c member
    cases charm.substrate <;> (simp at member; rcases member with rfl | rfl <;> simp [runningCalls])
  have labels := count_later (runningCalls charm.substrate)
    (new (.clusterLabels .own) (by simp [initializedCalls])) (absent _ (by simp))
  have name := count_later (runningCalls charm.substrate)
    (new (.appData "cluster-name") (by simp [initializedCalls])) (absent _ (by simp))
  have running : ∀ v : Scene Settings Call, run (respond rules script) (ServerService.running charm.substrate) ⟨w,log⟩ =
      (.ok true,v) ↔ Running script charm.substrate ∧ v = ⟨w,log ++ runningCalls charm.substrate⟩ :=
    fun v => running_iff fun c member => new c (List.mem_append_left _ member)
  rw [initialized,run_bind_eq_ok_iff,Bool.exists_bool,initializedCalls,← List.append_assoc]
  constructor
  · rintro (⟨v,_,ended⟩ | ⟨v,ran,rest⟩)
    · cases ended
    · obtain ⟨ready,rfl⟩ := (running v).mp ran
      obtain ⟨labelled,rfl⟩ := (labelled_iff labels name).mp rest
      exact ⟨⟨ready,labelled⟩,rfl⟩
  · rintro ⟨⟨ready,labelled⟩,rfl⟩
    exact .inr ⟨_,(running _).mpr ⟨ready,rfl⟩,(labelled_iff labels name).mpr ⟨labelled,rfl⟩⟩

/-- A query whose `ExecutionError` is taken for a default. -/
theorem query_iff {β : Type} {c : Call} (other : isolates c = false) {n : Nat} (count : log.count c = n)
    {f : Reply c → β} {d b : β} {s : Scene Settings Call} :
    run (respond rules script) ((ask c).tryElse Exn.isExecutionError (fun _ => pure d) (fun a => pure (f a))) ⟨w,log⟩ =
        (.ok b,s) ↔
      ((∃ a, script.reply c n = .ok a ∧ f a = b) ∨
        ∃ e, script.reply c n = .error e ∧ e.isExecutionError = true ∧ d = b) ∧ s = ⟨w,log ++ [c]⟩ := by
  rw [run_tryElse,run_perform,respond_other (by simp [Isolates,other]),count]
  rcases script.reply c n with e | a
  · by_cases caught : e.isExecutionError = true <;> simp [caught,eq_comm (b := s)]
  · simp [eq_comm (b := s)]

theorem checkCluster_iff (status : log.count (.clusterStatus .own) = 0) {s : Scene Settings Call} :
    run (respond rules script) checkCluster ⟨w,log⟩ = (.ok (),s) ↔
      ClusterHealthy script ∧ s = ⟨w,log ++ [.clusterStatus .own,.clusterStatus .own]⟩ := by
  have again : (log ++ [Call.clusterStatus .own]).count (.clusterStatus .own) = 1 := by simp [status]
  have first : ∀ instances v, run (respond rules script) (ClusterClient.fetchInstances .own) ⟨w,log⟩ =
      (.ok instances,v) ↔ _ := fun instances v => query_iff rfl status
  have second : ∀ state v, run (respond rules script) ClusterClient.fetchState ⟨w,log ++ [.clusterStatus .own]⟩ =
      (.ok state,v) ↔ _ := fun state v => query_iff rfl again
  rw [checkCluster,run_bind_eq_ok_iff]
  constructor
  · rintro ⟨instances,v,asked,rest⟩
    obtain ⟨topology,rfl⟩ := (first _ _).mp asked
    obtain ⟨state,v,asked,rest⟩ := (run_bind_eq_ok_iff _).mp rest
    obtain ⟨answered,rfl⟩ := (second _ _).mp asked
    split at rest
    · cases rest
    · rename_i good
      split at rest
      · cases rest
      · rename_i clear
        cases rest
        refine ⟨⟨?_,?_⟩,by simp⟩
        · rcases topology with ⟨report,same,rfl⟩ | ⟨e,same,caught,rfl⟩
          · rw [same]
            exact clear
          · rw [same]
            exact caught
        · rcases answered with ⟨report,same,rfl⟩ | ⟨e,same,caught,rfl⟩
          · refine ⟨report,same,?_⟩
            simpa [or_iff_not_imp_left] using good
          · simp at good
  · rintro ⟨⟨topology,report,same,good⟩,rfl⟩
    obtain ⟨instances,read,clear⟩ : ∃ instances : List (String × InstanceInfo),
        ((∃ report, script.reply (.clusterStatus .own) 0 = .ok report ∧ report.topology = instances) ∨
          ∃ e, script.reply (.clusterStatus .own) 0 = .error e ∧ e.isExecutionError = true ∧ [] = instances) ∧
        instances.find? (fun entry => checkCluster.inProgress entry.2) = none := by
      rcases found : script.reply (.clusterStatus .own) 0 with e | report
      · rw [found] at topology
        exact ⟨[],.inr ⟨e,rfl,topology,rfl⟩,rfl⟩
      · rw [found] at topology
        exact ⟨_,.inl ⟨report,rfl,rfl⟩,topology⟩
    refine ⟨instances,_,(first _ _).mpr ⟨read,rfl⟩,?_⟩
    refine (run_bind_eq_ok_iff _).mpr ⟨some report.status,_,(second _ _).mpr ⟨.inl ⟨report,same,rfl⟩,rfl⟩,?_⟩
    have healthy : ¬ (some report.status ≠ some ClusterStatus.ok ∧ some report.status ≠ some .okPartial) := by
      rcases good with good | good <;> simp [good]
    rw [if_neg healthy,clear]
    simp

/-- On the primary, the members were not counted. -/
theorem checkInstance_iff (truth : PrimaryAmongMany script) (members : log.count (.searchMembers .own []) = 0)
    (role : log.count (.instanceRole .own) = 0) (state : log.count (.instanceState .own) = 0)
    {s : Scene Settings Call} : run (respond rules script) checkInstance ⟨w,log⟩ = (.ok (),s) ↔
      (CountFails script ∧ InstanceHealthy script) ∧
        s = ⟨w,log ++ [.searchMembers .own [],.instanceRole .own,.instanceState .own]⟩ := by
  have role := count_later [.searchMembers .own []] role (by simp)
  have state := count_later [.instanceRole .own] (count_later [.searchMembers .own []] state (by simp)) (by simp)
  have counted : ∀ n v, run (respond rules script) (InstanceClient.countClusterMembers []) ⟨w,log⟩ = (.ok n,v) ↔ _ :=
    fun n v => query_iff rfl members
  rw [checkInstance,run_bind_eq_ok_iff]
  constructor
  · rintro ⟨n,v,asked,rest⟩
    obtain ⟨answered,rfl⟩ := (counted _ _).mp asked
    rw [InstanceClient.fetchRole,ask_bind_iff rfl role] at rest
    obtain ⟨primary,isPrimary,rest⟩ := rest
    rcases answered with ⟨found,same,rfl⟩ | ⟨e,same,caught,rfl⟩
    · have many := truth.members _ _ same
      rw [truth.role _ _ isPrimary,if_pos ⟨rfl,many⟩] at rest
      cases rest
    · rw [if_neg (by simp),InstanceClient.fetchState,ask_bind_iff rfl state] at rest
      obtain ⟨state,same',rest⟩ := rest
      split at rest
      · cases rest
      · rename_i online
        cases rest
        rw [not_not.mp online] at same'
        exact ⟨⟨⟨e,same,caught⟩,⟨primary,isPrimary⟩,same'⟩,by simp⟩
  · rintro ⟨⟨⟨e,same,caught⟩,⟨primary,isPrimary⟩,online⟩,rfl⟩
    refine ⟨0,_,(counted _ _).mpr ⟨.inr ⟨e,same,caught,rfl⟩,rfl⟩,?_⟩
    rw [InstanceClient.fetchRole,ask_bind_iff rfl role]
    refine ⟨primary,isPrimary,?_⟩
    rw [if_neg (by simp),InstanceClient.fetchState,ask_bind_iff rfl state]
    exact ⟨_,online,by simp⟩

/-- The checks of an unforced action pass only if the members could not be counted. -/
theorem runChecks_iff (truth : PrimaryAmongMany script) (status : log.count (.clusterStatus .own) = 0)
    (members : log.count (.searchMembers .own []) = 0) (role : log.count (.instanceRole .own) = 0)
    (state : log.count (.instanceState .own) = 0) {s : Scene Settings Call} :
    run (respond rules script) (runChecks false) ⟨w,log⟩ = (.ok true,s) ↔
      (CountFails script ∧ ClusterHealthy script ∧ InstanceHealthy script) ∧ s = ⟨w,log ++ checkCalls⟩ := by
  have members := count_later [.clusterStatus .own,.clusterStatus .own] members (by simp)
  have role := count_later [.clusterStatus .own,.clusterStatus .own] role (by simp)
  have state := count_later [.clusterStatus .own,.clusterStatus .own] state (by simp)
  rw [runChecks,run_tryElse_eq_ok_iff]
  constructor
  · rintro (⟨_,v,passed,rest⟩ | ⟨e,v,_,_,rest⟩)
    · cases rest
      obtain ⟨_,v,checked,rest⟩ := (run_bind_eq_ok_iff _).mp passed
      obtain ⟨cluster,rfl⟩ := (checkCluster_iff status).mp checked
      obtain ⟨⟨fails,healthy⟩,rfl⟩ := (checkInstance_iff truth members role state).mp rest
      exact ⟨⟨fails,cluster,healthy⟩,by simp [checkCalls]⟩
    · simp only [Bool.false_eq_true,if_false] at rest
      obtain ⟨_,_,_,ended⟩ := (run_bind_eq_ok_iff _).mp rest
      cases ended
  · rintro ⟨⟨fails,cluster,healthy⟩,rfl⟩
    refine .inl ⟨(),_,(run_bind_eq_ok_iff _).mpr ⟨(),_,(checkCluster_iff status).mpr ⟨cluster,rfl⟩,
      (checkInstance_iff truth members role state).mpr ⟨⟨fails,healthy⟩,rfl⟩⟩,?_⟩
    simp [checkCalls]

/-- A temporary file with contents: it is made, the body runs, it is removed. -/
theorem temporaryFile_iff {α : Type} {text : String} {contents : Option String} (given : nonEmpty contents = some text)
    {n : Nat} (count : log.count (.createTemporary text) = n) {body : Option String → Hook α} {a : α}
    {s : Scene Settings Call} : run (respond rules script) (temporaryFile contents body) ⟨w,log⟩ = (.ok a,s) ↔
      ∃ file, script.reply (.createTemporary text) n = .ok file ∧
        ∃ v, run (respond rules script) (body (some file)) ⟨w,log ++ [.createTemporary text]⟩ = (.ok a,v) ∧
          run (respond rules script) (ask (.unlink file)) v = (.ok (),s) := by
  rw [temporaryFile,given]
  simp only [ask_bind_iff (c := .createTemporary text) rfl count,run_finallyDo_eq_ok_iff]

/-- The body of `upload_file`, for new calls. -/
theorem uploadBody_iff {bucket path file : String} {chainFile : Option String}
    (build : log.count (.buildBackupClient chainFile) = 0) (upload : log.count (.uploadFile bucket (some file) path) = 0)
    {s : Scene Settings Call} :
    run (respond rules script) (do
        ask (.buildBackupClient chainFile)
        ask (.uploadFile bucket (some file) path) : Hook Unit) ⟨w,log⟩ = (.ok (),s) ↔
      (script.reply (.buildBackupClient chainFile) 0 = .ok () ∧
        script.reply (.uploadFile bucket (some file) path) 0 = .ok ()) ∧
        s = ⟨w,log ++ [.buildBackupClient chainFile,.uploadFile bucket (some file) path]⟩ := by
  have upload := count_later [.buildBackupClient chainFile] upload (by simp)
  rw [ask_bind_iff rfl build]
  simp only [ask_iff (c := .uploadFile bucket (some file) path) rfl upload,List.append_assoc,List.cons_append,
    List.nil_append]
  constructor
  · rintro ⟨_,built,uploaded,rfl⟩
    exact ⟨⟨built,uploaded⟩,rfl⟩
  · rintro ⟨⟨built,uploaded⟩,rfl⟩
    exact ⟨(),built,uploaded,rfl⟩

/-- The file of the contents, in a log without uploads but for the file of the chain. -/
theorem uploadContents_iff {bucket path contents : String} {chainFile : Option String}
    (given : nonEmpty (some contents) = some contents) {n : Nat} (create : log.count (.createTemporary contents) = n)
    (build : log.count (.buildBackupClient chainFile) = 0)
    (upload : ∀ file, log.count (.uploadFile bucket (some file) path) = 0) (remove : ∀ file, log.count (.unlink file) = 0)
    {s : Scene Settings Call} :
    run (respond rules script) (temporaryFile (some contents) fun file => do
        ask (.buildBackupClient chainFile)
        ask (.uploadFile bucket file path)) ⟨w,log⟩ = (.ok (),s) ↔
      ∃ file, (script.reply (.createTemporary contents) n = .ok file ∧
        script.reply (.buildBackupClient chainFile) 0 = .ok () ∧
        script.reply (.uploadFile bucket (some file) path) 0 = .ok () ∧ script.reply (.unlink file) 0 = .ok ()) ∧
        s = ⟨w,log ++ [.createTemporary contents,.buildBackupClient chainFile,.uploadFile bucket (some file) path,
          .unlink file]⟩ := by
  have build := count_later [.createTemporary contents] build (by simp)
  have upload := fun file => count_later [.createTemporary contents] (upload file) (by simp)
  have removed : ∀ file, (log ++ [Call.createTemporary contents] ++
      [Call.buildBackupClient chainFile,.uploadFile bucket (some file) path]).count (.unlink file) = 0 :=
    fun file => count_later _ (count_later _ (remove file) (by simp)) (by simp)
  rw [temporaryFile_iff given create]
  constructor
  · rintro ⟨file,created,v,ran,ended⟩
    obtain ⟨⟨built,uploaded⟩,rfl⟩ := (uploadBody_iff build (upload file)).mp ran
    obtain ⟨unlinked,rfl⟩ := (ask_iff rfl (removed file)).mp ended
    exact ⟨file,⟨created,built,uploaded,unlinked⟩,by simp⟩
  · rintro ⟨file,⟨created,built,uploaded,unlinked⟩,rfl⟩
    refine ⟨file,created,_,(uploadBody_iff build (upload file)).mpr ⟨⟨built,uploaded⟩,rfl⟩,?_⟩
    exact (ask_iff rfl (removed file)).mpr ⟨unlinked,by simp⟩

theorem uploadFile_iff {m : BackupManager} {storage : BackupStorage} (configured : m.storage = some storage)
    {contents path : String} (given : nonEmpty (some contents) = some contents)
    (new : ∀ c, uploads c = true → log.count c = 0) :
    (∃ s, run (respond rules script) (uploadFile m contents path) ⟨w,log⟩ = (.ok (),s)) ↔
      Uploads script storage contents path := by
  have name := new (.createTemporary contents) rfl
  have build := fun chainFile => new (.buildBackupClient chainFile) rfl
  have upload := fun file => new (.uploadFile storage.bucketName (some file) path) rfl
  have remove := fun file => new (.unlink file) rfl
  rw [uploadFile,getStorage,configured,Uploads]
  simp only [pure_bind]
  rcases present : nonEmpty storage.caChain with _ | chain
  · have whole : ∀ body : Option String → Hook Unit, temporaryFile storage.caChain body = body none := by
      intro body
      rw [temporaryFile,present]
    simp only [whole,uploadContents_iff given name (build none) upload remove]
    constructor
    · rintro ⟨_,file,succeeds,_⟩
      exact ⟨file,succeeds⟩
    · rintro ⟨file,succeeds⟩
      exact ⟨_,file,succeeds,rfl⟩
  · have first := new (.createTemporary chain) rfl
    have second : (log ++ [Call.createTemporary chain]).count (.createTemporary contents) =
        if chain = contents then 1 else 0 := by
      rw [count_append_single,name]
      simp
    have build := fun chainFile => count_later [.createTemporary chain] (build chainFile) (by simp)
    have upload := fun file => count_later [.createTemporary chain] (upload file) (by simp)
    have removed := fun file => count_later [.createTemporary chain] (remove file) (by simp)
    have last : ∀ chainFile file, (log ++ [Call.createTemporary chain] ++ [Call.createTemporary contents,
        .buildBackupClient (some chainFile),.uploadFile storage.bucketName (some file) path,.unlink file]).count
        (.unlink chainFile) = if file = chainFile then 1 else 0 := by
      intro chainFile file
      have before : (log ++ [Call.createTemporary chain] ++ [Call.createTemporary contents,
          .buildBackupClient (some chainFile),.uploadFile storage.bucketName (some file) path]).count
          (.unlink chainFile) = 0 := count_later _ (removed chainFile) (by simp)
      have split_ : log ++ [Call.createTemporary chain] ++ [Call.createTemporary contents,
          .buildBackupClient (some chainFile),.uploadFile storage.bucketName (some file) path,.unlink file] =
          (log ++ [Call.createTemporary chain] ++ [Call.createTemporary contents,.buildBackupClient (some chainFile),
            .uploadFile storage.bucketName (some file) path]) ++ [Call.unlink file] := by simp
      rw [split_,count_append_single,before]
      simp
    simp only [temporaryFile_iff present first,uploadContents_iff given second (build _) upload removed]
    constructor
    · rintro ⟨s,chainFile,created,v,⟨file,⟨named,built,uploaded,unlinked⟩,rfl⟩,ended⟩
      obtain ⟨unlinked',rfl⟩ := (ask_iff rfl (last chainFile file)).mp ended
      exact ⟨chainFile,file,created,named,built,uploaded,unlinked,unlinked'⟩
    · rintro ⟨chainFile,file,created,named,built,uploaded,unlinked,ended⟩
      exact ⟨_,chainFile,created,_,⟨file,⟨named,built,uploaded,unlinked⟩,rfl⟩,
        (ask_iff rfl (last chainFile file)).mpr ⟨ended,rfl⟩⟩

theorem metadataText_given (charm : Charm) (requestTime model juju : String) :
    nonEmpty (some (metadataText charm requestTime model juju)) = some (metadataText charm requestTime model juju) := by
  have filled : metadataText charm requestTime model juju ≠ "" := by
    intro empty
    have ends := (String.append_eq_empty_iff.mp empty).2
    exact absurd ends (by decide)
  unfold nonEmpty
  split
  · rename_i same
    exact absurd (Option.some.inj same) filled
  · rfl

theorem uploads_later {c c' : Call} (quiet : uploads c' = false) (uploading : uploads c = true) : c ∉ [c'] := by
  intro member
  rw [List.mem_singleton.mp member,quiet] at uploading
  cases uploading

/-- The path of the backup and its metadata, from the storage and two answers of Juju. -/
theorem buildMetadata_iff {charm : Charm} {m : BackupManager} {requestTime : String} (model : log.count .modelName = 0)
    (juju : (log ++ [Call.modelName]).count .jujuVersion = 0) (built : Option (String × String)) (s : Scene Settings Call) :
    run (respond rules script) (do
      let storage ← getStorage m
      let metadata ← buildBackupMetadata charm requestTime
      pure (some (storage.bucketPath ++ "/" ++ requestTime,metadata)) : Hook (Option (String × String))) ⟨w,log⟩ =
        (.ok built,s) ↔
      ∃ storage model juju, m.storage = some storage ∧ script.reply .modelName 0 = .ok model ∧
        script.reply .jujuVersion 0 = .ok juju ∧
        built = some (storage.bucketPath ++ "/" ++ requestTime,metadataText charm requestTime model juju) ∧
        s = ⟨w,log ++ [.modelName] ++ [.jujuVersion]⟩ := by
  rcases configured : m.storage with _ | storage
  · simp [getStorage,configured,run_bind]
  · simp only [getStorage,configured,pure_bind,buildBackupMetadata,bind_assoc]
    rw [ask_bind_iff rfl model]
    simp only [ask_bind_iff (c := .jujuVersion) rfl juju,run_pure]
    constructor
    · rintro ⟨model,named,juju,versioned,same⟩
      cases same
      exact ⟨storage,model,juju,rfl,named,versioned,rfl,rfl⟩
    · rintro ⟨_,model,juju,same,named,versioned,rfl,rfl⟩
      cases same
      exact ⟨model,named,juju,versioned,rfl⟩

/-- The metadata is uploaded, and the path of the backup is known. -/
theorem uploadMetadata_iff {charm : Charm} {m : BackupManager} {requestTime : String}
    (model : log.count .modelName = 0) (juju : log.count .jujuVersion = 0)
    (new : ∀ c, uploads c = true → log.count c = 0) :
    (∃ path s, run (respond rules script) (uploadMetadata charm m requestTime) ⟨w,log⟩ = (.ok (some path),s)) ↔
      ∃ storage model juju, m.storage = some storage ∧ script.reply .modelName 0 = .ok model ∧
        script.reply .jujuVersion 0 = .ok juju ∧
        Uploads script storage (metadataText charm requestTime model juju)
          (storage.bucketPath ++ "/" ++ requestTime ++ ".metadata") := by
  have juju := count_later [.modelName] juju (by simp)
  have new : ∀ c, uploads c = true → (log ++ [Call.modelName] ++ [Call.jujuVersion]).count c = 0 := fun c uploading =>
    count_later _ (count_later _ (new c uploading) (uploads_later rfl uploading)) (uploads_later rfl uploading)
  constructor
  · rintro ⟨path,s,ran⟩
    obtain ⟨made,v,ran,rest⟩ := (run_bind_eq_ok_iff _).mp ran
    rcases (run_tryElse_eq_ok_iff _).mp ran with ⟨made',v',ran,same⟩ | ⟨e,v',_,_,ended⟩
    · cases same
      obtain ⟨storage,model,juju,configured,named,versioned,rfl,rfl⟩ := (buildMetadata_iff model juju _ _).mp ran
      rcases (run_tryElse_eq_ok_iff _).mp rest with ⟨_,v,uploaded,_⟩ | ⟨e,v,_,_,ended⟩
      · exact ⟨storage,model,juju,configured,named,versioned,
          (uploadFile_iff configured (metadataText_given _ _ _ _) new).mp ⟨v,uploaded⟩⟩
      · obtain ⟨_,_,_,ended⟩ := (run_bind_eq_ok_iff _).mp ended
        cases ended
    · obtain ⟨_,_,_,ended⟩ := (run_bind_eq_ok_iff _).mp ended
      cases ended
      cases rest
  · rintro ⟨storage,model',juju',configured,named,versioned,uploads⟩
    obtain ⟨s,uploaded⟩ := (uploadFile_iff (w := w) configured (metadataText_given _ _ _ _) new).mpr uploads
    refine ⟨storage.bucketPath ++ "/" ++ requestTime,s,(run_bind_eq_ok_iff _).mpr ⟨_,_,
      (run_tryElse_eq_ok_iff _).mpr (.inl ⟨_,_,(buildMetadata_iff model juju _ _).mpr
        ⟨storage,model',juju',configured,named,versioned,rfl,rfl⟩,rfl⟩),?_⟩⟩
    exact (run_tryElse_eq_ok_iff _).mpr (.inl ⟨(),s,uploaded,rfl⟩)

/-- The part of an action after its checks. -/
def describe (charm : Charm) (m : BackupManager) : Hook (Option (String × String)) := do
  let requestTime := String.ofList (strftime (← ask .requestTime))
  let backupPath ← uploadMetadata charm m requestTime
  pure (backupPath.map (fun path => (requestTime,path)))

def checkedLog (k : Substrate) : List Call :=
  [.relation relationBackups] ++ initializedCalls k ++ [.refreshing] ++ checkCalls

/-- The guards and the checks of an unforced action on the primary. -/
theorem prepare_iff (truth : PrimaryAmongMany script) {charm : Charm} {m : BackupManager} {ready : String × String}
    {s : Scene Settings Call} :
    run (respond rules script) (prepare charm m false) ⟨w,[]⟩ = (.ok (some ready),s) ↔
      (script.reply (.relation relationBackups) 0 = .ok true ∧ Initialized script charm.substrate ∧
        script.reply .refreshing 0 = .ok false ∧ CountFails script ∧ ClusterHealthy script ∧ InstanceHealthy script) ∧
      run (respond rules script) (describe charm m) ⟨w,checkedLog charm.substrate⟩ = (.ok (some ready),s) := by
  have skipped : ∀ (reason : String) (v : Scene Settings Call),
      run (respond rules script) (do skip reason; pure none : Hook (Option (String × String))) v ≠
        (.ok (some ready),s) := by
    intro reason v ran
    obtain ⟨_,_,_,ended⟩ := (run_bind_eq_ok_iff _).mp ran
    cases ended
  have first : ∀ k, ∀ c ∈ initializedCalls k, [Call.relation relationBackups].count c = 0 := by
    rintro (_ | _) <;> decide
  have second : ∀ k, ([Call.relation relationBackups] ++ initializedCalls k).count .refreshing = 0 := by
    rintro (_ | _) <;> decide
  have third : ∀ k, ∀ c ∈ checkCalls,
      ([Call.relation relationBackups] ++ initializedCalls k ++ [Call.refreshing]).count c = 0 := by
    rintro (_ | _) <;> decide
  have ready_iff : ∀ b v, run (respond rules script) (initialized charm) ⟨w,[.relation relationBackups]⟩ = (.ok b,v) →
      b = true → _ := fun b v ran same => (initialized_iff (first _)).mp (same ▸ ran)
  have passed_iff := fun v => runChecks_iff (w := w) (s := v) truth
    (third charm.substrate _ (by simp [checkCalls])) (third charm.substrate _ (by simp [checkCalls]))
    (third charm.substrate _ (by simp [checkCalls])) (third charm.substrate _ (by simp [checkCalls]))
  rw [prepare,ask_bind_iff rfl List.count_nil]
  constructor
  · rintro ⟨related,asked,rest⟩
    cases related with
    | false => exact absurd rest (skipped _ _)
    | true =>
      obtain ⟨b,v,ran,rest⟩ := (run_bind_eq_ok_iff _).mp rest
      cases b with
      | false => exact absurd rest (skipped _ _)
      | true =>
        obtain ⟨initialized,rfl⟩ := ready_iff _ _ ran rfl
        obtain ⟨b,settled,rest⟩ := (ask_bind_iff rfl (second _)).mp rest
        cases b with
        | true => exact absurd rest (skipped _ _)
        | false =>
          obtain ⟨b,v,ran,rest⟩ := (run_bind_eq_ok_iff _).mp rest
          cases b with
          | false => cases rest
          | true =>
            obtain ⟨checked,rfl⟩ := (passed_iff v).mp ran
            exact ⟨⟨asked,initialized,settled,checked⟩,rest⟩
  · rintro ⟨⟨asked,initialized,settled,checked⟩,rest⟩
    refine ⟨true,asked,(run_bind_eq_ok_iff _).mpr ⟨true,_,(initialized_iff (first _)).mpr ⟨initialized,rfl⟩,?_⟩⟩
    refine (ask_bind_iff rfl (second _)).mpr ⟨false,settled,?_⟩
    exact (run_bind_eq_ok_iff _).mpr ⟨true,_,(passed_iff _).mpr ⟨checked,rfl⟩,rest⟩

/-- The metadata of an action that has passed its checks. -/
theorem describe_iff {charm : Charm} {m : BackupManager} :
    (∃ ready s, run (respond rules script) (describe charm m) ⟨w,checkedLog charm.substrate⟩ = (.ok (some ready),s)) ↔
      MetadataUploaded script charm m := by
  have time : ∀ k, (checkedLog k).count .requestTime = 0 := by
    rintro (_ | _) <;> decide
  have model : ∀ k, (checkedLog k ++ [Call.requestTime]).count .modelName = 0 := by
    rintro (_ | _) <;> decide
  have juju : ∀ k, (checkedLog k ++ [Call.requestTime]).count .jujuVersion = 0 := by
    rintro (_ | _) <;> decide
  have none_uploads : ∀ k, ∀ c ∈ checkedLog k ++ [Call.requestTime], uploads c = false := by
    rintro (_ | _) <;> decide
  have new : ∀ c, uploads c = true → (checkedLog charm.substrate ++ [Call.requestTime]).count c = 0 := by
    intro c uploading
    refine List.count_eq_zero.mpr fun member => ?_
    rw [none_uploads _ c member] at uploading
    cases uploading
  constructor
  · rintro ⟨ready,s,ran⟩
    obtain ⟨t,told,rest⟩ := (ask_bind_iff rfl (time _)).mp ran
    obtain ⟨path,v,uploaded,ended⟩ := (run_bind_eq_ok_iff _).mp rest
    cases path with
    | none => cases ended
    | some path =>
      obtain ⟨storage,model,juju,configured,named,versioned,uploads⟩ :=
        (uploadMetadata_iff (model _) (juju _) new).mp ⟨path,v,uploaded⟩
      exact ⟨t,storage,model,juju,told,configured,named,versioned,uploads⟩
  · rintro ⟨t,storage,name,version,told,configured,named,versioned,uploads⟩
    obtain ⟨path,v,uploaded⟩ := (uploadMetadata_iff (w := w) (model _) (juju _) new).mpr
      ⟨storage,name,version,configured,named,versioned,uploads⟩
    exact ⟨_,v,(ask_bind_iff rfl (time _)).mpr ⟨t,told,(run_bind_eq_ok_iff _).mpr ⟨some path,v,uploaded,rfl⟩⟩⟩

/-- The action comes to its isolation. -/
theorem prepared_iff (truth : PrimaryAmongMany script) (charm : Charm) (m : BackupManager) :
    (∃ ready s, run (respond rules script) (prepare charm m false) ⟨w,[]⟩ = (.ok (some ready),s)) ↔
      CountFails script ∧ GoesOn script charm m := by
  simp only [prepare_iff truth,exists_and_left,describe_iff]
  constructor
  · rintro ⟨⟨related,initialized,settled,fails,cluster,healthy⟩,uploaded⟩
    exact ⟨fails,related,initialized,settled,cluster,healthy,uploaded⟩
  · rintro ⟨fails,goes⟩
    exact ⟨⟨goes.related,goes.initialized,goes.settled,fails,goes.cluster,goes.instance_⟩,goes.uploaded⟩

/-- Describing a backup neither asks for the status nor sets anything. -/
theorem describe_avoids {bad : Call → Prop} (only : ∀ c, bad c → c = .clusterStatus .own ∨ isolates c = true)
    (charm : Charm) (m : BackupManager) : Avoids bad (describe charm m) := by
  have free : ∀ {c}, c ≠ .clusterStatus .own → isolates c = false → Avoids bad (ask c) := by
    intro c other unset
    refine avoids_ask fun isBad => ?_
    rcases only c isBad with same | sets
    · exact other same
    · rw [sets] at unset
      cases unset
  have upload : ∀ contents path, Avoids bad (uploadFile m contents path) := by
    intro contents path
    refine avoids_mono (fun c isBad => ?_) (inside_uploadFile m contents path)
    rcases only c isBad with rfl | sets
    · rfl
    · unfold isolates at sets
      split at sets
      · rfl
      · rfl
      · cases sets
  refine avoids_bind (free (by simp) rfl) fun t => avoids_bind ?_ (fun _ => trivial)
  refine avoids_bind (avoids_tryExcept ?_ fun e => avoids_bind (free (by simp) rfl) (fun _ => trivial)) fun built => ?_
  · refine avoids_bind (avoids_getStorage m) fun storage => avoids_bind ?_ (fun _ => trivial)
    exact avoids_bind (free (by simp) rfl) fun _ => avoids_bind (free (by simp) rfl) (fun _ => trivial)
  · split
    · trivial
    · exact avoids_tryElse (upload _ _) (fun e => avoids_bind (free (by simp) rfl) (fun _ => trivial)) (fun _ => trivial)

theorem keeps_prepare (charm : Charm) (m : BackupManager) : Avoids Isolates (prepare charm m false) := by
  have skips : ∀ reason, Avoids Isolates (do skip reason; pure none : Hook (Option (String × String))) :=
    fun reason => avoids_bind (keeps_ask rfl) (fun _ => trivial)
  refine avoids_bind (keeps_ask rfl) fun related => avoids_ite _ (fun _ => ?_) (fun _ => skips _)
  refine avoids_bind (keeps_of_quiet (quiet_initialized charm)) fun ready => avoids_ite _ (fun _ => ?_) (fun _ => skips _)
  refine avoids_bind (keeps_ask rfl) fun refreshing => avoids_ite _ (fun _ => skips _) fun _ => ?_
  refine avoids_bind ?_ fun passed => avoids_ite _ (fun _ => ?_) (fun _ => trivial)
  · refine avoids_tryElse (keeps_of_quiet (avoids_bind quiet_checkCluster fun _ => quiet_checkInstance)) (fun e => ?_)
      (fun _ => trivial)
    exact avoids_ite _ (fun _ => trivial) (fun _ => avoids_bind (keeps_ask rfl) (fun _ => trivial))
  · exact describe_avoids (fun c => .inr) charm m

/-- An action that comes to its isolation has asked for the status twice, and has set nothing. -/
theorem prepared_log (truth : PrimaryAmongMany script) {charm : Charm} {m : BackupManager} {ready : String × String}
    {s : Scene Settings Call}
    (ran : run (respond rules script) (prepare charm m false) ⟨w,[]⟩ = (.ok (some ready),s)) :
    s.log.count (.clusterStatus .own) = 2 ∧ s.log.count setHidden = 0 ∧ s.log.count setOffline = 0 := by
  obtain ⟨_,described⟩ := (prepare_iff truth).mp ran
  have counts : ∀ c, c = .clusterStatus .own ∨ isolates c = true →
      s.log.count c = (checkedLog charm.substrate).count c := by
    intro c listed
    have kept := run_count_avoids rules script (describe_avoids (fun _ => id) charm m) listed
      ⟨w,checkedLog charm.substrate⟩
    rwa [described] at kept
  have checked : ∀ k, (checkedLog k).count (.clusterStatus .own) = 2 ∧ (checkedLog k).count setHidden = 0 ∧
      (checkedLog k).count setOffline = 0 := by
    rintro (_ | _) <;> decide
  rw [counts _ (.inl rfl),counts setHidden (.inr rfl),counts setOffline (.inr rfl)]
  exact checked _

end

/-! ### The action -/

/-- For every configuration and every outcome of every call. -/
theorem undisturbed_iff (script : Script Call Reply Exn) (truth : PrimaryAmongMany script) (charm : Charm)
    (m : BackupManager) (hidden offline : Bool) :
    (play rules script (onCreateBackup charm m false) ⟨hidden,offline,false⟩).2.world.disturbed = false ↔
      ¬ CountFails script ∨
        ¬ (GoesOn script charm m ∧ Several (script.reply (.clusterStatus .own) 2) ∧ Hides script) := by
  have world := run_world script (keeps_prepare charm m) ⟨⟨hidden,offline,false⟩,[]⟩
  have prepared := prepared_iff (w := ⟨hidden,offline,false⟩) truth charm m
  have unprepared (never : ∀ ready s, run (respond rules script) (prepare charm m false) ⟨⟨hidden,offline,false⟩,[]⟩ ≠
      (.ok (some ready),s)) : ¬ CountFails script ∨
        ¬ (GoesOn script charm m ∧ Several (script.reply (.clusterStatus .own) 2) ∧ Hides script) := by
    by_cases fails : CountFails script
    · refine .inr fun both => ?_
      obtain ⟨ready,s,ran⟩ := prepared.mpr ⟨fails,both.1⟩
      exact never ready s ran
    · exact .inl fails
  rw [play,onCreateBackup,run_bind]
  rcases ran : run (respond rules script) (prepare charm m false) ⟨⟨hidden,offline,false⟩,[]⟩ with ⟨e | ready,s⟩ <;>
    rw [ran] at world unprepared
  · exact iff_of_true (congrArg Settings.disturbed world) (unprepared (by simp))
  cases ready with
  | none => exact iff_of_true (congrArg Settings.disturbed world) (unprepared (by simp))
  | some ready =>
    obtain ⟨requestTime,backupPath⟩ := ready
    obtain ⟨fails,goes⟩ := prepared.mp ⟨_,s,ran⟩
    obtain ⟨status,new,new'⟩ := prepared_log truth ran
    have disturbs := isolate_disturbs script (keeps_backupBody charm m backupPath) (s := s)
      (congrArg Settings.disturbed world) new new'
    rw [status] at disturbs
    refine (iff_of_eq (congrArg (fun w : Settings => w.disturbed = false)
      (run_bind_world script (fun flow => ?_) s))).trans ?_
    · cases flow with
      | returned => trivial
      | continues => exact keeps_ask rfl
    rw [← Bool.not_eq_true,disturbs]
    simp [fails,goes]

/-- The primary of two instances, with an answer to the query of the members; every
    other call succeeds. -/
def answers (members : Except Exn (List String)) : Script Call Reply Exn where
  reply c _ := match c with
    | .relation _ | .snapPresent | .snapServiceActive => .ok true
    | .appData _ => .ok (some "cluster")
    | .clusterLabels _ => .ok ["cluster"]
    | .clusterStatus _ => .ok ⟨.primary,.ok,some "10.0.0.10:3306",
        [("mysql-0",⟨.online,"R/W",none,none⟩),("mysql-1",⟨.online,"R/O",none,none⟩)]⟩
    | .searchMembers _ _ => members
    | .instanceRole _ => .ok (some .primary)
    | .instanceState _ => .ok (some .online)
    | .peekContent _ => .ok [("backups-password","secret")]
    | _ => .ok default
  takesEffect _ _ := false

theorem answers_truthful {members : Except Exn (List String)} (many : ∀ found, members = .ok found → 1 < found.length) :
    PrimaryAmongMany (answers members) where
  members _ found answered := many found answered
  role _ _ answered := (Except.ok.inj answered).symm

theorem undisturbed_counted : (play rules (answers (.ok ["10.0.0.10:3306","10.0.0.11:3306"]))
    (onCreateBackup backupUnit backupManager false) ⟨false,false,false⟩).2.world.disturbed = false := by
  have truth : PrimaryAmongMany (answers (.ok ["10.0.0.10:3306","10.0.0.11:3306"])) :=
    answers_truthful fun found same => by simp [← Except.ok.inj same]
  refine (undisturbed_iff _ truth backupUnit backupManager false false).mpr (.inl ?_)
  rintro ⟨e,raised,_⟩
  cases raised

/-- The members cannot be counted, and the primary is taken offline. -/
theorem uncounted_disturbs : ¬ ∀ script : Script Call Reply Exn, PrimaryAmongMany script →
    ∀ (charm : Charm) (m : BackupManager) (hidden offline : Bool),
      (play rules script (onCreateBackup charm m false) ⟨hidden,offline,false⟩).2.world.disturbed = false := by
  intro always
  have truth : PrimaryAmongMany (answers (.error ⟨.executionError,"Failed to search the members"⟩)) :=
    answers_truthful fun _ same => nomatch same
  have kept := always _ truth backupUnit backupManager false false
  revert kept
  decide +kernel

end MysqlOperators.PrimaryBackup
