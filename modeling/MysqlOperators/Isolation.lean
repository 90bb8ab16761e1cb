import MysqlOperators.BackupReport

/-!
The instance that a backup isolates. The world is what is set in the instance, and
the script decides how every call ends. `isolate_instance` hides the instance and
takes it offline, runs its body and undoes both; the create-backup action isolates
the instance that it has checked.
-/
namespace MysqlOperators.Isolation
open MysqlOperators.Program MysqlOperators.Program.Prog MysqlOperators.External MysqlOperators.Clients
open MysqlOperators.Workload MysqlOperators.Helpers MysqlOperators.Quiet MysqlOperators.Scripted MysqlOperators.Backup
open MysqlOperators.BackupReport
set_option linter.unusedSimpArgs false

/-! ### What isolation sets -/

/-- Whether routers leave the instance out, whether it is offline, and whether the
    charm has set either of the two. -/
structure Settings where
  hidden : Bool
  offline : Bool
  disturbed : Bool
deriving DecidableEq, Repr

namespace Settings

def set (w : Settings) : Call → Settings
  | .updateInstance .own option value =>
    if option = "tag:_hidden" then { w with hidden := value == "true", disturbed := true } else w
  | .setVariable .own name value =>
    if name = "offline_mode" then { w with offline := value == "ON", disturbed := true } else w
  | _ => w

end Settings

def rules : Rules Settings Call Reply Exn where
  answer _ _ r := r
  effect w c r happened := match r with
    | .ok _ => w.set c
    | .error _ => if happened then w.set c else w

@[simp] theorem rules_ok (w : Settings) (c : Call) (a : Reply c) (happened : Bool) :
    rules.effect w c (.ok a) happened = w.set c := rfl

/-- The four calls of `isolate_instance`. -/
abbrev setHidden : Call := .updateInstance .own "tag:_hidden" "true"
abbrev setOffline : Call := .setVariable .own "offline_mode" "ON"
abbrev unsetOffline : Call := .setVariable .own "offline_mode" "OFF"
abbrev unsetHidden : Call := .updateInstance .own "tag:_hidden" "false"

@[simp] theorem set_setHidden (w : Settings) : w.set setHidden = ⟨true,w.offline,true⟩ := rfl
@[simp] theorem set_setOffline (w : Settings) : w.set setOffline = ⟨w.hidden,true,true⟩ := rfl
@[simp] theorem set_unsetOffline (w : Settings) : w.set unsetOffline = ⟨w.hidden,false,true⟩ := rfl
@[simp] theorem set_unsetHidden (w : Settings) : w.set unsetHidden = ⟨false,w.offline,true⟩ := rfl

/-- The body of the context sets nothing itself. -/
abbrev Isolates (c : Call) : Prop := isolates c = true

theorem set_of_not_isolates {c : Call} (other : ¬ Isolates c) (w : Settings) : w.set c = w := by
  unfold Settings.set
  split
  · exact absurd rfl other
  · exact absurd rfl other
  · rfl

theorem effect_of_not_isolates {c : Call} (other : ¬ Isolates c) (w : Settings) (r : Except Exn (Reply c))
    (happened : Bool) : rules.effect w c r happened = w := by
  simp only [rules,set_of_not_isolates other,ite_self]
  split <;> rfl

section
variable {α : Type} {p : Hook α}

theorem run_world (script : Script Call Reply Exn) (keeps : Avoids Isolates p) (s : Scene Settings Call) :
    (run (respond rules script) p s).2.world = s.world :=
  run_keeps rules script id (fun w _ r happened other => effect_of_not_isolates other w r happened) keeps s

/-- The world that `p` leaves is the one at the end, where what follows it isolates nothing. -/
theorem run_bind_world (script : Script Call Reply Exn) {β : Type} {f : α → Hook β}
    (keeps : ∀ a, Avoids Isolates (f a)) (s : Scene Settings Call) :
    (run (respond rules script) (p >>= f) s).2.world = (run (respond rules script) p s).2.world := by
  rw [run_bind]
  rcases run (respond rules script) p s with ⟨e | a,s'⟩
  · rfl
  · exact run_world script (keeps a) s'

/-- Once set, always disturbed. -/
theorem run_disturbed (script : Script Call Reply Exn) (s : Scene Settings Call) (before : s.world.disturbed = true) :
    (run (respond rules script) p s).2.world.disturbed = true := by
  refine run_frame (P := fun s : Scene Settings Call => s.world.disturbed = true) ?_ (avoids_of_never p) s before
  intro s c r happened _ before
  have set : (s.world.set c).disturbed = true := by
    unfold Settings.set
    split
    · split <;> simp [before]
    · split <;> simp [before]
    · exact before
  simp only [Scene.after,rules]
  split
  · exact set
  · split
    · exact set
    · exact before

/-- A kind of calls without those that set something. -/
theorem keeps_of_inside {kind : Call → Bool} (other : ∀ c, isolates c = true → kind c = false)
    (inside : Avoids (Outside kind) p) : Avoids Isolates p := avoids_mono other inside

theorem keeps_of_quiet (silent : Avoids Loud p) : Avoids Isolates p := by
  refine avoids_mono (fun c sets => ?_) silent
  unfold Isolates isolates at sets
  split at sets
  · rfl
  · rfl
  · cases sets

theorem keeps_ask {c : Call} (other : isolates c = false) : Avoids Isolates (ask c) :=
  avoids_ask (by simp [Isolates,other])

theorem keeps_uploadFile (m : BackupManager) (contents path : String) : Avoids Isolates (uploadFile m contents path) := by
  refine keeps_of_inside (fun c sets => ?_) (inside_uploadFile m contents path)
  unfold isolates at sets
  split at sets
  · rfl
  · rfl
  · cases sets

theorem keeps_createBackup (m : BackupManager) (backupPath username password : String) :
    Avoids Isolates (createBackup m backupPath username password) := by
  refine keeps_of_inside (fun c sets => ?_) (inside_createBackup m backupPath username password)
  unfold isolates at sets
  split at sets
  · rfl
  · rfl
  · cases sets

theorem keeps_getValue (label key : String) : Avoids Isolates (SecretStore.getValue label key) := by
  refine avoids_bind (avoids_tryExcept (keeps_ask rfl) fun _ => trivial) fun _ =>
    avoids_bind (keeps_ask rfl) fun content => ?_
  split <;> trivial

theorem keeps_failAndReturn (message : String) : Avoids Isolates (failAndReturn message) :=
  avoids_bind (keeps_ask rfl) (fun _ => trivial)

theorem keeps_backupBody (charm : Charm) (m : BackupManager) (backupPath : String) :
    Avoids Isolates (backupBody charm m backupPath) := by
  refine avoids_bind (keeps_getValue _ _) fun password => ?_
  refine avoids_tryElse ?_ (fun _ => keeps_failAndReturn _) fun output => ?_
  · exact avoids_bind (keeps_of_quiet (quiet_setUnitStatus _)) fun _ =>
      avoids_bind (keeps_createBackup _ _ _ _) (fun _ => trivial)
  · refine avoids_tryElse ?_ (fun _ => keeps_failAndReturn _) (fun _ => trivial)
    exact avoids_bind (keeps_uploadFile _ _ _) fun _ => avoids_bind (keeps_ask rfl) (fun _ => trivial)

end

/-! ### The context -/

/-- The status that `isolate_instance` asks for is not the one of a single instance. -/
def Several : Except Exn ClusterReport → Prop
  | .ok report => report.topology.length ≠ 1
  | .error e => e.isExecutionError = true

/-- One of the restoring calls has been made and has raised. -/
def RestoringRaised (script : Script Call Reply Exn) (log : List Call) : Prop :=
  (unsetOffline ∈ log ∧ ∃ e, script.reply unsetOffline 0 = .error e) ∨
    (unsetHidden ∈ log ∧ ∃ e, script.reply unsetHidden 0 = .error e)

/-- The scene in which the body of an isolated instance begins. -/
def isolatedScene : Scene Settings Call := ⟨⟨true,true,true⟩,[.clusterStatus .own,setHidden,setOffline]⟩

/-- The body of an isolated instance ends with an exception that is no `Exception`. -/
def Interrupted (script : Script Call Reply Exn) (body : Hook Flow) : Prop :=
  ∃ e, (run (respond rules script) body isolatedScene).1 = .error e ∧ e.isException = false

/-- When the settings end as they were: nothing is tried; or hiding fails, and has no
    effect or none that shows; or taking the instance offline fails after it was hidden
    before; or the body is interrupted and nothing had changed; or all is undone, in an
    instance that was neither hidden nor offline. -/
def Undone (script : Script Call Reply Exn) (w : Settings) (body : Hook Flow) : Prop :=
  Several (script.reply (.clusterStatus .own) 0) →
    match script.reply setHidden 0,script.reply setOffline 0 with
    | .error _,_ => script.takesEffect setHidden 0 = true → w.hidden = true
    | .ok _,.error _ => w.hidden = true ∧ (script.takesEffect setOffline 0 = true → w.offline = true)
    | .ok _,.ok _ =>
      (Interrupted script body → w.hidden = true ∧ w.offline = true) ∧
        (¬ Interrupted script body → (∃ a, script.reply unsetOffline 0 = .ok a) →
          (∃ a, script.reply unsetHidden 0 = .ok a) → w.hidden = false ∧ w.offline = false)

section
variable {script : Script Call Reply Exn} {s : Scene Settings Call}

theorem respond_other {c : Call} (other : ¬ Isolates c) (s : Scene Settings Call) :
    respond rules script s c = (script.reply c (s.log.count c),⟨s.world,s.log ++ [c]⟩) := by
  simp only [respond,effect_of_not_isolates other]
  rfl

theorem respond_status (s : Scene Settings Call) : respond rules script s (.clusterStatus .own) =
    (script.reply (.clusterStatus .own) (s.log.count (.clusterStatus .own)),⟨s.world,s.log ++ [.clusterStatus .own]⟩) :=
  respond_other (by simp [isolates]) s

/-- A call that sets something, for the first time. -/
theorem respond_first {c : Call} (s : Scene Settings Call) (first : s.log.count c = 0) : respond rules script s c =
    (script.reply c 0,⟨rules.effect s.world c (script.reply c 0) (script.takesEffect c 0),s.log ++ [c]⟩) := by
  simp only [respond,first]
  rfl

/-- The status of one instance, or an error that is not caught: nothing is set. -/
theorem enter_one (one : ¬ Several (script.reply (.clusterStatus .own) (s.log.count (.clusterStatus .own)))) :
    ∃ r, run (respond rules script) enterIsolation s = (r,⟨s.world,s.log ++ [.clusterStatus .own]⟩) ∧
      r ≠ .ok .isolated := by
  simp only [enterIsolation,run_bind,ClusterClient.fetchInstances,run_tryElse,run_perform,respond_status]
  rcases answer : script.reply (.clusterStatus .own) (s.log.count (.clusterStatus .own)) with e | report
  · rw [answer] at one
    have caught : e.isExecutionError = false := by simpa [Several] using one
    exact ⟨.error e,by simp [answer,caught],nofun⟩
  · rw [answer] at one
    have alone : report.topology.length = 1 := by simpa [Several] using one
    exact ⟨.ok .alone,by simp [answer,alone],nofun⟩

def tryIsolation : Hook Isolation :=
  (do ClusterClient.setInstanceOption "tag:_hidden" "true"
      InstanceClient.updateVariable "offline_mode" "ON" : Hook Unit).tryElse Exn.isExecutionError
    (fun _ => pure .failed) (fun _ => pure .isolated)

/-- Any other status: the isolation is tried. -/
theorem enter_several (several : Several (script.reply (.clusterStatus .own) (s.log.count (.clusterStatus .own)))) :
    run (respond rules script) enterIsolation s =
      run (respond rules script) tryIsolation ⟨s.world,s.log ++ [.clusterStatus .own]⟩ := by
  rw [enterIsolation,run_bind,ClusterClient.fetchInstances,run_tryElse,run_perform,respond_status]
  rcases answer : script.reply (.clusterStatus .own) (s.log.count (.clusterStatus .own)) with e | report
  · rw [answer] at several
    have caught : e.isExecutionError = true := several
    simp only [answer,caught,if_true,run_pure]
    rfl
  · rw [answer] at several
    have many : report.topology.length ≠ 1 := several
    simp only [answer,run_pure,many,if_false]
    rfl

/-- Hiding the instance raises. -/
theorem try_unhidden (new : s.log.count setHidden = 0) {e : Exn} (raises : script.reply setHidden 0 = .error e) :
    ∃ r, run (respond rules script) tryIsolation s =
      (r,⟨if script.takesEffect setHidden 0 then ⟨true,s.world.offline,true⟩ else s.world,s.log ++ [setHidden]⟩) ∧
      r ≠ .ok .isolated := by
  simp only [tryIsolation,run_tryElse,run_bind,ClusterClient.setInstanceOption,run_perform]
  rw [respond_first s new,raises]
  by_cases caught : e.isExecutionError = true
  · exact ⟨.ok .failed,by simp [caught,rules],nofun⟩
  · exact ⟨.error e,by simp [caught,rules],nofun⟩

/-- Hiding the instance succeeds, and it is to be taken offline. -/
theorem try_after_hiding (new : s.log.count setHidden = 0) (new' : s.log.count setOffline = 0) {a : Unit}
    (hides : script.reply setHidden 0 = .ok a) :
    run (respond rules script) tryIsolation s =
      (match script.reply setOffline 0 with
        | .ok _ => .ok .isolated
        | .error e => if e.isExecutionError = true then .ok .failed else .error e,
       ⟨rules.effect ⟨true,s.world.offline,true⟩ setOffline (script.reply setOffline 0) (script.takesEffect setOffline 0),
        s.log ++ [setHidden,setOffline]⟩) := by
  have later : (s.log ++ [setHidden]).count setOffline = 0 := by
    rw [count_append_single,new']
    rfl
  simp only [tryIsolation,run_tryElse,run_bind,ClusterClient.setInstanceOption,InstanceClient.updateVariable,run_perform]
  have hidden : rules.effect s.world setHidden (.ok a) (script.takesEffect setHidden 0) =
      ⟨true,s.world.offline,true⟩ := by rw [rules_ok,set_setHidden]
  rw [respond_first s new,hides,hidden]
  simp only
  rw [respond_first ⟨_,s.log ++ [setHidden]⟩ later]
  rcases script.reply setOffline 0 with e | b
  · by_cases caught : e.isExecutionError = true <;> simp [caught]
  · simp

/-- Hiding the instance succeeds, taking it offline raises. -/
theorem try_hidden (new : s.log.count setHidden = 0) (new' : s.log.count setOffline = 0) {a : Unit} {e : Exn}
    (hides : script.reply setHidden 0 = .ok a) (raises : script.reply setOffline 0 = .error e) :
    ∃ r, run (respond rules script) tryIsolation s =
      (r,⟨⟨true,s.world.offline || script.takesEffect setOffline 0,true⟩,s.log ++ [setHidden,setOffline]⟩) ∧
      r ≠ .ok .isolated := by
  rw [try_after_hiding new new' hides,raises]
  refine ⟨if e.isExecutionError = true then .ok .failed else .error e,?_,?_⟩
  · by_cases happened : script.takesEffect setOffline 0 = true <;> simp [rules,happened]
  · split <;> nofun

theorem try_isolated (new : s.log.count setHidden = 0) (new' : s.log.count setOffline = 0) {a b : Unit}
    (hides : script.reply setHidden 0 = .ok a) (closes : script.reply setOffline 0 = .ok b) :
    run (respond rules script) tryIsolation s =
      (.ok .isolated,⟨⟨true,true,true⟩,s.log ++ [setHidden,setOffline]⟩) := by
  rw [try_after_hiding new new' hides,closes]
  simp [rules]

/-- Leaving the context, with a restoring call that raises. -/
theorem leave_raised (new : s.log.count unsetOffline = 0) (new' : s.log.count unsetHidden = 0)
    (raises : (∃ e, script.reply unsetOffline 0 = .error e) ∨ ∃ e, script.reply unsetHidden 0 = .error e) :
    RestoringRaised script (run (respond rules script) leaveIsolation s).2.log := by
  simp only [leaveIsolation,run_tryExcept,run_bind,ClusterClient.setInstanceOption,InstanceClient.updateVariable,
    run_perform]
  rw [respond_first s new]
  rcases opens : script.reply unsetOffline 0 with e | a
  · refine .inl ⟨?_,e,opens⟩
    by_cases caught : e.isExecutionError = true <;> simp [caught]
  · obtain ⟨e,shows⟩ : ∃ e, script.reply unsetHidden 0 = .error e := by
      rcases raises with ⟨e,closed⟩ | raises
      · rw [opens] at closed
        cases closed
      · exact raises
    have later : (s.log ++ [unsetOffline]).count unsetHidden = 0 := by
      rw [count_append_single,new']
      rfl
    refine .inr ⟨?_,e,shows⟩
    simp only [respond_first ⟨_,s.log ++ [unsetOffline]⟩ later,shows]
    by_cases caught : e.isExecutionError = true <;> simp [caught]

/-- Leaving the context, with two restoring calls that succeed. -/
theorem leave_restored (new : s.log.count unsetOffline = 0) (new' : s.log.count unsetHidden = 0) {a b : Unit}
    (opens : script.reply unsetOffline 0 = .ok a) (shows : script.reply unsetHidden 0 = .ok b) :
    (run (respond rules script) leaveIsolation s).2.world = ⟨false,false,true⟩ := by
  have later : (s.log ++ [unsetOffline]).count unsetHidden = 0 := by
    rw [count_append_single,new']
    rfl
  simp only [leaveIsolation,run_tryExcept,run_bind,ClusterClient.setInstanceOption,InstanceClient.updateVariable,
    run_perform]
  rw [respond_first s new,opens]
  simp only [rules_ok,set_unsetOffline]
  rw [respond_first ⟨_,s.log ++ [unsetOffline]⟩ later,shows]
  rfl

section
variable {body : Hook Flow} (keeps : Avoids Isolates body)
include keeps

/-- Unless the instance is isolated, the context runs its body, or ends before it. -/
theorem isolate_other {r : Except Exn Isolation} {s' : Scene Settings Call}
    (entered : run (respond rules script) enterIsolation s = (r,s')) (other : r ≠ .ok .isolated) :
    (run (respond rules script) (isolateInstance body) s).2.world = s'.world ∧
      ∀ c, Isolates c → (c ∈ (run (respond rules script) (isolateInstance body) s).2.log ↔ c ∈ s'.log) := by
  rw [isolateInstance,run_bind,entered]
  rcases r with e | (_ | _ | _)
  · exact ⟨rfl,fun _ _ => Iff.rfl⟩
  · exact ⟨run_world script keeps s',fun c sets => run_log_avoids rules script keeps sets s'⟩
  · exact ⟨run_world script keeps s',fun c sets => run_log_avoids rules script keeps sets s'⟩
  · exact absurd rfl other

theorem isolate_unisolated {r : Except Exn Isolation} {s' : Scene Settings Call}
    (entered : run (respond rules script) enterIsolation s = (r,s')) (other : r ≠ .ok .isolated)
    (unopened : unsetOffline ∉ s'.log) (unshown : unsetHidden ∉ s'.log) :
    (run (respond rules script) (isolateInstance body) s).2.world = s'.world ∧
      ¬ RestoringRaised script (run (respond rules script) (isolateInstance body) s).2.log := by
  obtain ⟨world,log⟩ := isolate_other keeps entered other
  refine ⟨world,?_⟩
  rintro (⟨member,_⟩ | ⟨member,_⟩)
  · exact unopened ((log unsetOffline rfl).mp member)
  · exact unshown ((log unsetHidden rfl).mp member)

/-- The context of an isolated instance, from the first scene. -/
theorem isolate_isolated {w : Settings} (entered : run (respond rules script) enterIsolation ⟨w,[]⟩ =
      (.ok .isolated,isolatedScene)) :
    (Interrupted script body ∧ (run (respond rules script) (isolateInstance body) ⟨w,[]⟩).2.world = ⟨true,true,true⟩ ∧
      ¬ RestoringRaised script (run (respond rules script) (isolateInstance body) ⟨w,[]⟩).2.log) ∨
    (¬ Interrupted script body ∧ ∃ s : Scene Settings Call, s.log.count unsetOffline = 0 ∧ s.log.count unsetHidden = 0 ∧
      (run (respond rules script) (isolateInstance body) ⟨w,[]⟩).2 = (run (respond rules script) leaveIsolation s).2) := by
  have world : (run (respond rules script) body isolatedScene).2.world = ⟨true,true,true⟩ :=
    run_world script keeps isolatedScene
  have fresh : ∀ c, Isolates c → c ∉ isolatedScene.log →
      c ∉ (run (respond rules script) body isolatedScene).2.log :=
    fun c sets absent => mt (run_log_avoids rules script keeps sets isolatedScene).mp absent
  have unopened := fresh unsetOffline rfl (by decide)
  have unshown := fresh unsetHidden rfl (by decide)
  simp only [isolateInstance,run_bind,entered,run_tryExcept,Interrupted]
  rcases ended : run (respond rules script) body isolatedScene with ⟨e | flow,s'⟩ <;> rw [ended] at world unopened unshown
  · by_cases plain : e.isException = true
    · refine .inr ⟨by simp [plain],s',List.count_eq_zero.mpr unopened,List.count_eq_zero.mpr unshown,?_⟩
      simp only [plain,if_true,run_pure]
      rcases run (respond rules script) leaveIsolation s' with ⟨_ | _,_⟩ <;> rfl
    · refine .inl ⟨⟨e,rfl,by simpa using plain⟩,?_,?_⟩
      · simpa [plain] using world
      · rintro (⟨member,_⟩ | ⟨member,_⟩)
        · exact unopened (by simpa [plain] using member)
        · exact unshown (by simpa [plain] using member)
  · refine .inr ⟨by simp,s',List.count_eq_zero.mpr unopened,List.count_eq_zero.mpr unshown,?_⟩
    simp only [run_pure]
    rcases run (respond rules script) leaveIsolation s' with ⟨_ | _,_⟩ <;> rfl

end

end

/-- Hiding the instance has an effect. -/
def Hides (script : Script Call Reply Exn) : Prop :=
  (∃ a, script.reply setHidden 0 = .ok a) ∨ script.takesEffect setHidden 0 = true

/-- The context sets something exactly if it tries to, and hiding has an effect. -/
theorem isolate_disturbs (script : Script Call Reply Exn) {body : Hook Flow} (keeps : Avoids Isolates body)
    {s : Scene Settings Call} (before : s.world.disturbed = false) (new : s.log.count setHidden = 0)
    (new' : s.log.count setOffline = 0) :
    (run (respond rules script) (isolateInstance body) s).2.world.disturbed = true ↔
      Several (script.reply (.clusterStatus .own) (s.log.count (.clusterStatus .own))) ∧ Hides script := by
  have new : (s.log ++ [Call.clusterStatus .own]).count setHidden = 0 := by
    rw [count_append_single,new]
    rfl
  have new' : (s.log ++ [Call.clusterStatus .own]).count setOffline = 0 := by
    rw [count_append_single,new']
    rfl
  have stays (after : (run (respond rules script) enterIsolation s).2.world.disturbed = true) :
      (run (respond rules script) (isolateInstance body) s).2.world.disturbed = true := by
    rw [isolateInstance,run_bind]
    rcases entered : run (respond rules script) enterIsolation s with ⟨e | mode,s'⟩ <;> rw [entered] at after
    · exact after
    · exact run_disturbed script s' after
  by_cases several : Several (script.reply (.clusterStatus .own) (s.log.count (.clusterStatus .own)))
  · have entering := enter_several several
    rcases hides : script.reply setHidden 0 with e | a
    · obtain ⟨r,tried,other⟩ := try_unhidden (s := ⟨s.world,_⟩) new hides
      rw [(isolate_other keeps (entering.trans tried) other).1]
      by_cases happened : script.takesEffect setHidden 0 = true
      · simp [happened,several,Hides]
      · simp [happened,several,Hides,hides,before]
    · refine iff_of_true (stays ?_) ⟨several,.inl ⟨a,hides⟩⟩
      rw [entering]
      rcases closes : script.reply setOffline 0 with e | b
      · obtain ⟨r,tried,_⟩ := try_hidden (s := ⟨s.world,_⟩) new new' hides closes
        rw [tried]
      · rw [try_isolated (s := ⟨s.world,_⟩) new new' hides closes]
  · obtain ⟨r,entered,other⟩ := enter_one several
    rw [(isolate_other keeps entered other).1]
    simp [before,several]

/-- The settings are as they were, unless a restoring call raised. -/
def Restored (script : Script Call Reply Exn) (w : Settings) (s : Scene Settings Call) : Prop :=
  RestoringRaised script s.log ∨ s.world.hidden = w.hidden ∧ s.world.offline = w.offline

/-- For every instance, every outcome of every call and every body. -/
theorem restored_iff (script : Script Call Reply Exn) (w : Settings) (body : Hook Flow) (keeps : Avoids Isolates body) :
    Restored script w (play rules script (isolateInstance body) w).2 ↔ Undone script w body := by
  have new : [Call.clusterStatus .own].count setHidden = 0 := by decide
  have new' : [Call.clusterStatus .own].count setOffline = 0 := by decide
  by_cases several : Several (script.reply (.clusterStatus .own) 0)
  · have entering := @enter_several script ⟨w,[]⟩ several
    rcases hides : script.reply setHidden 0 with e | a
    · obtain ⟨r,tried,other⟩ := try_unhidden (s := ⟨w,[.clusterStatus .own]⟩) new hides
      obtain ⟨world,unraised⟩ := isolate_unisolated keeps (entering.trans tried) other (by simp) (by simp)
      simp only [Restored,play,unraised,false_or,world,Undone,several,true_imp_iff,hides]
      by_cases happened : script.takesEffect setHidden 0 = true
      · simp [happened]
      · simp [happened]
    · rcases closes : script.reply setOffline 0 with e | b
      · obtain ⟨r,tried,other⟩ := try_hidden (s := ⟨w,[.clusterStatus .own]⟩) new new' hides closes
        obtain ⟨world,unraised⟩ := isolate_unisolated keeps (entering.trans tried) other (by simp) (by simp)
        simp only [Restored,play,unraised,false_or,world,Undone,several,true_imp_iff,hides,closes]
        by_cases happened : script.takesEffect setOffline 0 = true
        · simp [happened]
        · simp [happened]
      · have entered := entering.trans (try_isolated new new' hides closes)
        simp only [Undone,several,true_imp_iff,hides,closes]
        rcases isolate_isolated keeps entered with ⟨interrupted,world,unraised⟩ | ⟨finished,s',unset,unset',left⟩
        · simp [Restored,play,unraised,world,interrupted]
        · simp only [Restored,play,left,finished,false_imp_iff,not_false_iff,true_imp_iff,true_and]
          rcases opens : script.reply unsetOffline 0 with e | c
          · exact iff_of_true (.inl (leave_raised unset unset' (.inl ⟨e,opens⟩))) fun ⟨_,opened⟩ => nomatch opened
          rcases shows : script.reply unsetHidden 0 with e | d
          · exact iff_of_true (.inl (leave_raised unset unset' (.inr ⟨e,shows⟩))) fun _ ⟨_,shown⟩ => nomatch shown
          have unraised : ¬ RestoringRaised script (run (respond rules script) leaveIsolation s').2.log := by
            rintro (⟨_,_,raised⟩ | ⟨_,_,raised⟩)
            · rw [opens] at raised
              cases raised
            · rw [shows] at raised
              cases raised
          rw [leave_restored unset unset' opens shows]
          simp [unraised]
  · obtain ⟨r,entered,other⟩ := @enter_one script ⟨w,[]⟩ several
    obtain ⟨world,_⟩ := isolate_unisolated keeps entered other (by simp) (by simp)
    exact iff_of_true (.inr ⟨by rw [play,world],by rw [play,world]⟩) fun tried => absurd tried several

/-- Two instances, and every call succeeds, except those of a list. -/
def replies (raising : List Call) : Script Call Reply Exn where
  reply c _ := if c ∈ raising then .error ⟨.executionError,"Failed to execute"⟩ else match c with
    | .clusterStatus _ => .ok ⟨.primary,.ok,some "10.0.0.10:3306",
        [("mysql-0",⟨.online,"R/W",none,none⟩),("mysql-1",⟨.online,"R/O",none,none⟩)]⟩
    | .peekContent _ => .ok [("backups-password","secret")]
    | _ => .ok default
  takesEffect _ _ := false

theorem restored_replies : Restored (replies []) ⟨false,false,false⟩
    (play rules (replies []) (isolateInstance (backupBody backupUnit ⟨.vm,none⟩ "/backup")) ⟨false,false,false⟩).2 := by
  refine (restored_iff (replies []) ⟨false,false,false⟩ _ (keeps_backupBody _ _ _)).mpr fun _ => ⟨?_,?_⟩
  · rintro ⟨e,ended,_⟩
    have returned : (run (respond rules (replies [])) (backupBody backupUnit ⟨.vm,none⟩ "/backup") isolatedScene).1 =
        .ok .returned := by decide +kernel
    rw [returned] at ended
    cases ended
  · exact fun _ _ _ => ⟨rfl,rfl⟩

/-- The instance cannot be taken offline, and stays hidden. -/
theorem online_stays_hidden : ¬ ∀ (script : Script Call Reply Exn) (w : Settings) (body : Hook Flow),
    Avoids Isolates body → Restored script w (play rules script (isolateInstance body) w).2 := by
  intro always
  have restored := always (replies [setOffline]) ⟨false,false,false⟩ _ (keeps_backupBody backupUnit ⟨.vm,none⟩ "/backup")
  rcases restored with (⟨member,_⟩ | ⟨member,_⟩) | ⟨shown,_⟩
  · revert member
    decide +kernel
  · revert member
    decide +kernel
  · revert shown
    decide +kernel

end MysqlOperators.Isolation
