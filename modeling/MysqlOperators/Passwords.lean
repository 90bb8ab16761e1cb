import MysqlOperators.Cluster
import MysqlOperators.Scripted

/-!
The set-password action. The world holds the two stores of a password, the secret
of the application and the database of the cluster, and whether the action called
`event.fail`. Juju may drop the secret that an action wrote when the action raises;
the theorems hold with and without that.
-/
namespace MysqlOperators.Passwords
open MysqlOperators.Program MysqlOperators.Program.Prog MysqlOperators.External MysqlOperators.Clients
open MysqlOperators.Workload MysqlOperators.Helpers MysqlOperators.Cluster MysqlOperators.Scripted
set_option linter.unusedSimpArgs false

structure Stores where
  secret : Databag
  database : String → Option String
  reported : Bool

/-- A user of the charm itself, with the key of its password. -/
structure InternalUser where
  username : String
  key : String
  known : usernameToPasswordKey.lookup username = some key

/-- The action runs on the leader, and the secret is read as it is. -/
def answer (w : Stores) : (c : Call) → Except Exn (Reply c) → Except Exn (Reply c)
  | .isLeader, .ok _ => .ok true
  | .peekContent _, .ok _ => .ok w.secret
  | _, r => r

def Stores.setUser (w : Stores) (username password : String) : Stores :=
  { w with database := fun u => if u = username then some password else w.database u }

def effect (w : Stores) : (c : Call) → Except Exn (Reply c) → Bool → Stores
  | .updateUser _ username password, .ok _, _ => w.setUser username password
  | .updateUser _ username password, .error _, true => w.setUser username password
  | .setContent _ content, .ok _, _ => { w with secret := content }
  | .setContent _ content, .error _, true => { w with secret := content }
  | .fail _, _, _ => { w with reported := true }
  | _, _, _ => w

def rules : Rules Stores Call Reply Exn := ⟨answer,effect⟩

section
variable (discards : Bool) (charm : Charm) (user : InternalUser) (given : String) (script : Script Call Reply Exn)
variable (secret : Databag) (database : String → Option String)

/-- The secret once the action is over. -/
def afterwards (ended : Except Exn Unit × Scene Stores Call) : Databag :=
  match ended.1 with
  | .ok _ => ended.2.world.secret
  | .error _ => if discards then secret else ended.2.world.secret

/-- The action called `event.fail` or raised. -/
def Failed (ended : Except Exn Unit × Scene Stores Call) : Prop :=
  ended.2.world.reported = true ∨ ∃ e, ended.1 = .error e

/-- The password of the action, unless drawing one fails. -/
def chosen : Option String :=
  if given = "" then
    match script.reply .randomPassword 0 with
    | .ok password => some password
    | .error _ => none
  else some given

/-- What the secret and the database hold for the user stays equal, changes if the
    action does not fail, and stays if it does. -/
def InStepAfter (ended : Except Exn Unit × Scene Stores Call) : Prop :=
  (secret.lookup user.key = database user.username →
    (afterwards discards secret ended).lookup user.key = ended.2.world.database user.username) ∧
  (Failed ended → (afterwards discards secret ended).lookup user.key = secret.lookup user.key ∧
    ended.2.world.database user.username = database user.username) ∧
  (¬ Failed ended → ∃ password, chosen given script = some password ∧
    (afterwards discards secret ended).lookup user.key = some password ∧
    ended.2.world.database user.username = some password)

def InStep : Prop :=
  InStepAfter discards user given script secret database
    (play rules script (onSetPassword charm user.username given) ⟨secret,database,false⟩)

/-! ### When the stores stay in step -/

def Done {α : Type} (r : Except Exn α) : Prop := ∃ a, r = .ok a

/-- The host of the cluster-set primary, or none when there is no primary. -/
def primaryHost : Except Exn (Option String) :=
  match script.reply (.clusterSetStatus .own) 0 with
  | .error e => .error e
  | .ok status => (ClusterSetClient.primaryOf status).map nonEmpty

/-- The exporter takes the password over. -/
def Restarts (password : String) : Prop :=
  match charm.substrate with
  | .vm =>
    script.reply .snapPresent 0 = .ok true ∧ Done (script.reply (.snapSet user.username password) 0) ∧
    script.reply .snapPresent 1 = .ok true ∧ Done (script.reply (.snapStop ExporterService.name) 0) ∧
    script.reply .snapPresent 2 = .ok true ∧ Done (script.reply (.snapStart ExporterService.name) 0) ∧
    Done (script.reply (.waitForConnection ExporterService.port) 0)
  | .k8s =>
    Done (script.reply (.writeJson exporterFile [("username",user.username),("password",password)]) 0) ∧
    Done (script.reply (.readJson exporterFile) 0) ∧ Done (script.reply (.addLayer ExporterService.name) 0) ∧
    Done (script.reply (.containerStop ExporterService.name) 0) ∧
    Done (script.reply (.readJson exporterFile) 1) ∧ Done (script.reply (.addLayer ExporterService.name) 1) ∧
    Done (script.reply (.containerStart ExporterService.name) 0) ∧
    Done (script.reply (.waitForConnection ExporterService.port) 0)

/-- The content of the secret is fetched, and the secret is found again. -/
def SecretFound : Prop :=
  Done (script.reply (.getSecret (secretLabel charm)) 0) ∧ Done (script.reply (.peekContent (secretLabel charm)) 0) ∧
  Done (script.reply (.getSecret (secretLabel charm)) 1)

/-- The call that writes the secret. -/
abbrev writeCall (password : String) : Call := .setContent (secretLabel charm) (updated secret user.key password)

/-- The errors that the handler reports with `event.fail`. -/
def reports (e : Exn) : Bool := e.isRuntimeError || e.isValueError

abbrev failCall (e : Exn) : Call := .fail ("Failed to update password for user " ++ user.username ++ ": " ++ e.text)

/-- The secret is written, and the exporter follows if it has to. -/
def SecretWritten (password : String) : Prop :=
  SecretFound charm script ∧ Done (script.reply (writeCall charm user secret password) 0) ∧
  (user.username = usernameMonitor → Restarts charm user script password)

/-- The secret is written and stays so although the action fails. -/
def SecretLeaks (password : String) : Prop :=
  SecretFound charm script ∧
  match script.reply (writeCall charm user secret password) 0 with
  | .error e => script.takesEffect (writeCall charm user secret password) 0 = true ∧
      (discards = true → reports e = true ∧ Done (script.reply (failCall user e) 0))
  | .ok _ => user.username = usernameMonitor ∧ ¬ Restarts charm user script password ∧ discards = false

/-! ### The secret and the exporter -/

/-- Calls of the action before it turns to the secret. -/
def isEarly : Call → Bool
  | .isLeader | .randomPassword | .clusterSetStatus _ | .updateUser _ _ _ => true
  | _ => false

theorem early_append {log : List Call} {c : Call} (early : ∀ c ∈ log, isEarly c = true) (early' : isEarly c = true) :
    ∀ d ∈ log ++ [c], isEarly d = true := by
  intro d member
  rcases List.mem_append.mp member with member | last
  · exact early d member
  · rw [List.mem_singleton.mp last,early']

theorem count_of_early {log : List Call} (early : ∀ c ∈ log, isEarly c = true) (c : Call) (late : isEarly c = false) :
    log.count c = 0 := List.count_eq_zero.mpr (fun member => by simp [early c member] at late)

/-- Calls that change one of the stores, or report. -/
def isStore : Call → Bool
  | .updateUser _ _ _ | .setContent _ _ | .fail _ => true
  | _ => false

/-- The exporter is set up, stopped and started. -/
def followUp (username password : String) (s : Substrate) : Hook Unit := do
  if username = usernameMonitor then do
    ExporterService.setup s username password
    ExporterService.stop s
    ExporterService.start s
  else pure ()

end

theorem exists_ok_unit (r : Except Exn Unit) : (∃ u, r = .ok u) ↔ r = .ok () :=
  ⟨fun ⟨_,ends⟩ => ends,fun ends => ⟨_,ends⟩⟩

section
variable {discards : Bool} {charm : Charm} {user : InternalUser} {script : Script Call Reply Exn}

/-- The calls that read the secret before it is written. -/
abbrev reads (charm : Charm) : List Call :=
  [.getSecret (secretLabel charm),.peekContent (secretLabel charm),.getSecret (secretLabel charm)]

theorem followUp_ok_iff (secret : Databag) (password : String) (w : Stores) {log : List Call}
    (early : ∀ c ∈ log, isEarly c = true) :
    (run (respond rules script) (followUp user.username password charm.substrate)
      ⟨w,log ++ reads charm ++ [writeCall charm user secret password]⟩).1 = .ok () ↔
      (user.username = usernameMonitor → Restarts charm user script password) := by
  obtain ⟨username,key,known⟩ := user
  have fresh := count_of_early early
  unfold followUp Restarts
  by_cases monitor : username = usernameMonitor
  · subst monitor
    simp only [if_true,true_imp_iff]
    cases substrate : charm.substrate with
    | vm =>
      simp [ExporterService.setup,ExporterService.stop,ExporterService.start,run_bind_ok_iff,run_ite,respond,rules,
        answer,Done,and_assoc,exists_ok_unit,fresh .snapPresent rfl,fresh (.snapSet _ _) rfl,fresh (.snapStop _) rfl,
        fresh (.snapStart _) rfl,fresh (.waitForConnection _) rfl]
    | k8s =>
      simp [ExporterService.setup,ExporterService.stop,ExporterService.start,run_bind_ok_iff,respond,rules,
        answer,Done,and_assoc,exists_ok_unit,fresh (.writeJson _ _) rfl,fresh (.readJson _) rfl,fresh (.addLayer _) rfl,
        fresh (.containerStop _) rfl,fresh (.containerStart _) rfl,fresh (.waitForConnection _) rfl]
  · simp [monitor]

theorem avoids_followUp (username password : String) (substrate : Substrate) :
    Avoids (fun c => isStore c = true) (followUp username password substrate) := by
  have other : ∀ {c : Call}, isStore c = false → Avoids (fun c => isStore c = true) (ask c) :=
    fun h => (avoids_perform _).mpr (by simp [h])
  refine avoids_ite _ (fun _ => ?_) (fun _ => trivial)
  refine avoids_bind ?_ fun _ => avoids_bind ?_ fun _ => ?_ <;> cases substrate
  · exact avoids_bind (other rfl) fun _ => avoids_ite _ (fun _ => other rfl) (fun _ => trivial)
  · exact other rfl
  · exact avoids_bind (other rfl) fun _ => avoids_ite _ (fun _ => other rfl) (fun _ => trivial)
  · exact avoids_bind (other rfl) fun _ => avoids_bind (other rfl) fun _ => other rfl
  · exact avoids_bind (other rfl) fun _ => avoids_ite _
      (fun _ => avoids_bind (other rfl) fun _ => other rfl) (fun _ => trivial)
  · exact avoids_bind (other rfl) fun _ => avoids_bind (other rfl) fun _ => avoids_bind (other rfl) fun _ => other rfl

theorem followUp_world (script : Script Call Reply Exn) (username password : String) (substrate : Substrate)
    (s : Scene Stores Call) : (run (respond rules script) (followUp username password substrate) s).2.world = s.world := by
  refine run_keeps rules script id (fun w c r b other => ?_) (avoids_followUp username password substrate) s
  simp only [rules,id]
  unfold effect
  split <;> simp [isStore] at other ⊢

/-- Reading the secret leads to the write. -/
theorem updatePassword_found (found : SecretFound charm script) (password : String) {w : Stores} {log : List Call}
    (early : ∀ c ∈ log, isEarly c = true) :
    run (respond rules script) (updatePassword charm user.key password) ⟨w,log⟩ =
      respond rules script ⟨w,log ++ reads charm⟩ (writeCall charm user w.secret password) := by
  obtain ⟨⟨u,first⟩,⟨content,read⟩,⟨u',again⟩⟩ := found
  simp [updatePassword,SecretStore.getContent,SecretStore.setContent,SecretStore.getSecret,run_bind,run_tryExcept,
    run_perform,respond,rules,answer,effect,count_of_early early (.getSecret _) rfl,
    count_of_early early (.peekContent _) rfl,first,read,again]

/-- A secret that is not found leaves both stores as they were. -/
theorem updatePassword_lost (lost : ¬ SecretFound charm script) (password : String) {w : Stores} {log : List Call}
    (early : ∀ c ∈ log, isEarly c = true) :
    ∃ e log', run (respond rules script) (updatePassword charm user.key password) ⟨w,log⟩ =
      (.error e,⟨w,log'⟩) := by
  have find := count_of_early early (.getSecret (secretLabel charm)) rfl
  have peek := count_of_early early (.peekContent (secretLabel charm)) rfl
  rcases first : script.reply (.getSecret (secretLabel charm)) 0 with e | u
  · by_cases missing : e.isSecretNotFound = true <;>
      simp [updatePassword,SecretStore.getContent,SecretStore.getSecret,run_bind,run_tryExcept,respond,rules,answer,
        effect,find,first,missing]
  rcases read : script.reply (.peekContent (secretLabel charm)) 0 with e | content
  · simp [updatePassword,SecretStore.getContent,SecretStore.getSecret,run_bind,run_tryExcept,respond,rules,answer,
      effect,find,peek,first,read]
  rcases again : script.reply (.getSecret (secretLabel charm)) 1 with e | u'
  · by_cases missing : e.isSecretNotFound = true <;>
      simp [updatePassword,SecretStore.getContent,SecretStore.setContent,SecretStore.getSecret,run_bind,run_tryExcept,
        respond,rules,answer,effect,find,peek,first,read,again,missing]
  exact absurd ⟨⟨u,first⟩,⟨content,read⟩,⟨u',again⟩⟩ lost

/-- The program from the secret on. -/
def fromSecret (charm : Charm) (user : InternalUser) (password : String) : Hook Unit :=
  (updatePassword charm user.key password).tryElse reports (fun e => ask (failCall user e))
    (fun _ => followUp user.username password charm.substrate)

/-- A write that succeeds is followed by the exporter. -/
theorem fromSecret_follows {password : String} {w : Stores} {log : List Call} (early : ∀ c ∈ log, isEarly c = true)
    (found : SecretFound charm script) (write : Done (script.reply (writeCall charm user w.secret password) 0)) :
    run (respond rules script) (fromSecret charm user password) ⟨w,log⟩ =
      run (respond rules script) (followUp user.username password charm.substrate)
        ⟨{ w with secret := updated w.secret user.key password },
          log ++ reads charm ++ [writeCall charm user w.secret password]⟩ := by
  obtain ⟨u,write⟩ := write
  have new : (log ++ reads charm).count (writeCall charm user w.secret password) = 0 := by
    simp [reads,count_of_early early (writeCall charm user w.secret password) rfl]
  rw [fromSecret,run_tryElse,updatePassword_found found password early]
  simp only [respond,new,rules,answer,write,effect]

theorem fromSecret_written {password : String} {w : Stores} {log : List Call} (early : ∀ c ∈ log, isEarly c = true)
    (written : SecretWritten charm user script w.secret password) :
    ∃ log', run (respond rules script) (fromSecret charm user password) ⟨w,log⟩ =
      (.ok (),⟨{ w with secret := updated w.secret user.key password },log'⟩) := by
  obtain ⟨found,write,follows⟩ := written
  rw [fromSecret_follows early found write]
  have ends := (followUp_ok_iff w.secret password { w with secret := updated w.secret user.key password } early).mpr follows
  exact ⟨_,Prod.ext ends (congrArg (Scene.mk · _) (followUp_world _ _ _ _ _))⟩

/-- The action fails, the database is left alone, and the secret holds the password if it leaks. -/
structure FailsUnwritten (discards : Bool) (charm : Charm) (user : InternalUser) (script : Script Call Reply Exn)
    (password : String) (w : Stores) (ended : Except Exn Unit × Scene Stores Call) : Prop where
  failed : Failed ended
  database : ended.2.world.database = w.database
  leaks : SecretLeaks discards charm user script w.secret password →
    afterwards discards w.secret ended = updated w.secret user.key password
  tight : ¬ SecretLeaks discards charm user script w.secret password → afterwards discards w.secret ended = w.secret

/-- The write fails: the secret leaks if the write takes effect all the same, and nothing undoes it. -/
theorem fromSecret_refused (discards : Bool) {password : String} {w : Stores} {log : List Call} {e : Exn}
    (early : ∀ c ∈ log, isEarly c = true) (found : SecretFound charm script)
    (write : script.reply (writeCall charm user w.secret password) 0 = .error e) :
    FailsUnwritten discards charm user script password w
      (run (respond rules script) (fromSecret charm user password) ⟨w,log⟩) := by
  have new : (log ++ reads charm).count (writeCall charm user w.secret password) = 0 := by
    simp [reads,count_of_early early (writeCall charm user w.secret password) rfl]
  have silent : (log ++ reads charm ++ [writeCall charm user w.secret password]).count (failCall user e) = 0 := by
    simp [reads,count_of_early early (failCall user e) rfl]
  have leaks : SecretLeaks discards charm user script w.secret password ↔
      script.takesEffect (writeCall charm user w.secret password) 0 = true ∧
        (discards = true → reports e = true ∧ Done (script.reply (failCall user e) 0)) := by
    unfold SecretLeaks
    rw [write]
    exact and_iff_right found
  rw [fromSecret,run_tryElse,updatePassword_found found password early]
  simp only [respond,new,rules,answer,write]
  by_cases caught : reports e = true
  · simp only [caught,if_true,run_perform,respond,silent]
    rcases fails : script.reply (failCall user e) 0 with e' | u' <;>
      by_cases changed : script.takesEffect (writeCall charm user w.secret password) 0 = true <;>
        cases discards <;>
          constructor <;> simp [leaks,caught,changed,effect,answer,fails,Failed,afterwards,Done]
  · by_cases changed : script.takesEffect (writeCall charm user w.secret password) 0 = true <;>
      cases discards <;> constructor <;> simp [leaks,caught,changed,effect,Failed,afterwards]

/-- The write succeeds and the exporter does not follow: the secret leaks unless it is undone. -/
theorem fromSecret_unfollowed (discards : Bool) {password : String} {w : Stores} {log : List Call} {u : Unit}
    (early : ∀ c ∈ log, isEarly c = true) (found : SecretFound charm script)
    (write : script.reply (writeCall charm user w.secret password) 0 = .ok u)
    (monitor : user.username = usernameMonitor) (breaks : ¬ Restarts charm user script password) :
    FailsUnwritten discards charm user script password w
      (run (respond rules script) (fromSecret charm user password) ⟨w,log⟩) := by
  have leaks : SecretLeaks discards charm user script w.secret password ↔ discards = false := by
    unfold SecretLeaks
    rw [write]
    exact ⟨fun leaks => leaks.2.2.2,fun keeps => ⟨found,monitor,breaks,keeps⟩⟩
  have world := followUp_world script user.username password charm.substrate
    ⟨{ w with secret := updated w.secret user.key password },
      log ++ reads charm ++ [writeCall charm user w.secret password]⟩
  have stuck := mt (followUp_ok_iff w.secret password { w with secret := updated w.secret user.key password } early).mp
    (fun follows => breaks (follows monitor))
  rw [← fromSecret_follows early found ⟨u,write⟩] at world stuck
  rcases ended : run (respond rules script) (fromSecret charm user password) ⟨w,log⟩ with ⟨e | u,s⟩ <;>
    rw [ended] at world stuck
  · simp only at world
    cases discards <;> constructor <;> simp [Failed,afterwards,leaks,world]
  · exact absurd rfl stuck

/-- The secret is not found: it is left alone. -/
theorem fromSecret_lost (discards : Bool) {password : String} {w : Stores} {log : List Call}
    (early : ∀ c ∈ log, isEarly c = true) (lost : ¬ SecretFound charm script) :
    FailsUnwritten discards charm user script password w
      (run (respond rules script) (fromSecret charm user password) ⟨w,log⟩) := by
  have tight : ¬ SecretLeaks discards charm user script w.secret password := fun leaks => lost leaks.1
  obtain ⟨e,log',raises⟩ := updatePassword_lost lost password early
  rw [fromSecret,run_tryElse,raises]
  by_cases caught : reports e = true
  · rcases fails : script.reply (failCall user e) (log'.count (failCall user e)) with e' | u <;>
      constructor <;> simp [tight,caught,run_perform,respond,rules,answer,effect,fails,Failed,afterwards]
  · constructor <;> simp [tight,caught,Failed,afterwards]

/-- If the secret is not written for good, the action fails, and what the secret
    holds afterwards depends on whether the write leaks. -/
theorem fromSecret_unwritten (discards : Bool) {password : String} {w : Stores} {log : List Call}
    (early : ∀ c ∈ log, isEarly c = true) (unwritten : ¬ SecretWritten charm user script w.secret password) :
    FailsUnwritten discards charm user script password w
      (run (respond rules script) (fromSecret charm user password) ⟨w,log⟩) := by
  by_cases found : SecretFound charm script
  · rcases write : script.reply (writeCall charm user w.secret password) 0 with e | u
    · exact fromSecret_refused discards early found write
    · obtain ⟨monitor,breaks⟩ := Classical.not_imp.mp fun follows => unwritten ⟨found,⟨u,write⟩,follows⟩
      exact fromSecret_unfollowed discards early found write monitor breaks
  · exact fromSecret_lost discards early found

/-! ### The action -/

theorem updateClusterUser_total (username password : String) (w : Stores) {log : List Call}
    (new : log.count (.clusterSetStatus .own) = 0) :
    run (respond rules script) (ClusterManager.updateClusterUser username password) ⟨w,log⟩ =
      match primaryHost script with
      | .error e => (.error e,⟨w,log ++ [.clusterSetStatus .own]⟩)
      | .ok none => (.ok (),⟨w,log ++ [.clusterSetStatus .own]⟩)
      | .ok (some host) =>
        if password.length > ClusterManager.passwordMaxLen then
          (.error ⟨.valueError,"Password is too long"⟩,⟨w,log ++ [.clusterSetStatus .own]⟩)
        else respond rules script ⟨w,log ++ [.clusterSetStatus .own]⟩ (.updateUser (.host host) username password) := by
  have fetched : run (respond rules script) (ClusterSetClient.fetchPrimaryHost .own) ⟨w,log⟩ =
      (script.reply (.clusterSetStatus .own) 0 >>= ClusterSetClient.primaryOf,⟨w,log ++ [.clusterSetStatus .own]⟩) := by
    rcases h : script.reply (.clusterSetStatus .own) 0 with e | status
    · simp [ClusterSetClient.fetchPrimaryHost,run_bind,respond,rules,answer,effect,new,h]; rfl
    · simp [ClusterSetClient.fetchPrimaryHost,run_bind,respond,rules,answer,effect,new,h]; rfl
  unfold primaryHost
  rw [ClusterManager.updateClusterUser,run_bind,fetched]
  rcases script.reply (.clusterSetStatus .own) 0 with e | status
  · rfl
  simp only [show ((.ok status : Except Exn ClusterSetReport) >>= ClusterSetClient.primaryOf) =
    ClusterSetClient.primaryOf status from rfl]
  generalize ClusterSetClient.primaryOf status = found
  rcases found with e | host
  · rfl
  rcases host with _ | host
  · rfl
  by_cases empty : host = ""
  · subst empty; rfl
  · have same : nonEmpty (some host) = some host := by
      unfold nonEmpty
      split
      · simp_all
      · rfl
    simp only [Except.map,same,empty,if_false]
    rw [run_ite,run_raise,InstanceClient.updateUser,run_perform]

/-- The body of the action, after the password is chosen. -/
def fromPassword (charm : Charm) (user : InternalUser) (password : String) : Hook Unit :=
  (do ClusterManager.updateClusterUser user.username password
      updatePassword charm user.key password : Hook Unit).tryElse reports (fun e => ask (failCall user e))
    (fun _ => followUp user.username password charm.substrate)

theorem fromPassword_eq (password : String) (s : Scene Stores Call) :
    run (respond rules script) (fromPassword charm user password) s =
      match run (respond rules script) (ClusterManager.updateClusterUser user.username password) s with
      | (.ok _,s') => run (respond rules script) (fromSecret charm user password) s'
      | (.error e,s') =>
        if reports e then run (respond rules script) (ask (failCall user e)) s' else (.error e,s') := by
  rw [fromPassword,run_tryElse,run_bind]
  rcases run (respond rules script) (ClusterManager.updateClusterUser user.username password) s with ⟨e | u,s'⟩
  · rfl
  · exact (run_tryElse _ _ _ _ _ _).symm

end

section
variable (discards : Bool) (charm : Charm) (user : InternalUser) (given : String) (script : Script Call Reply Exn)
variable (secret : Databag) (database : String → Option String)

/-- No primary: the database keeps its password, whatever becomes of the secret.
    With a primary, either the update of the database fails without effect, or the
    secret follows, or the database held the new password before. -/
def StaysInStep : Prop :=
  match script.reply .isLeader 0,chosen given script,primaryHost script with
  | .ok _,some password,.ok none =>
    (SecretWritten charm user script secret password → database user.username = some password) ∧
    (SecretLeaks discards charm user script secret password → secret.lookup user.key = some password)
  | .ok _,some password,.ok (some host) =>
    password.length > ClusterManager.passwordMaxLen ∨
    match script.reply (.updateUser (.host host) user.username password) 0 with
    | .error _ => script.takesEffect (.updateUser (.host host) user.username password) 0 = true →
        database user.username = some password
    | .ok _ => SecretWritten charm user script secret password ∨ database user.username = some password ∧
        (SecretLeaks discards charm user script secret password → secret.lookup user.key = some password)
  | _,_,_ => True

end

section
variable {discards : Bool} {charm : Charm} {user : InternalUser} {given : String} {script : Script Call Reply Exn}
variable {secret : Databag} {database : String → Option String}

/-- An action that fails and leaves both stores as they were. -/
theorem inStep_of_unchanged {ended : Except Exn Unit × Scene Stores Call} (failed : Failed ended)
    (keeps : ended.2.world.secret = secret) (same : ended.2.world.database user.username = database user.username) :
    InStepAfter discards user given script secret database ended := by
  have stays : afterwards discards secret ended = secret := by
    unfold afterwards
    split
    · exact keeps
    · split
      · rfl
      · exact keeps
  exact ⟨fun agree => by rw [stays,same,agree],fun _ => ⟨by rw [stays],same⟩,fun succeeds => absurd failed succeeds⟩

/-- An action that fails is in step exactly when it leaves both stores as they were. -/
theorem inStep_failed_iff {ended : Except Exn Unit × Scene Stores Call} (failed : Failed ended) :
    InStepAfter discards user given script secret database ended ↔
      (afterwards discards secret ended).lookup user.key = secret.lookup user.key ∧
      ended.2.world.database user.username = database user.username :=
  ⟨fun inStep => inStep.2.1 failed,
    fun ⟨same,same'⟩ => ⟨fun agree => by rw [same,same',agree],fun _ => ⟨same,same'⟩,
      fun succeeds => absurd failed succeeds⟩⟩

/-- An action that does not fail is in step exactly when both stores hold the new password. -/
theorem inStep_done_iff {ended : Except Exn Unit × Scene Stores Call} (done : ¬ Failed ended) {password : String}
    (new : chosen given script = some password) :
    InStepAfter discards user given script secret database ended ↔
      (afterwards discards secret ended).lookup user.key = some password ∧
      ended.2.world.database user.username = some password := by
  constructor
  · rintro ⟨_,_,both⟩
    obtain ⟨p,same,holds⟩ := both done
    rw [new] at same
    cases same
    exact holds
  · rintro ⟨inSecret,inDatabase⟩
    exact ⟨fun _ => by rw [inSecret,inDatabase],fun failed => absurd failed done,
      fun _ => ⟨password,new,inSecret,inDatabase⟩⟩

/-- The secret part of the action, in a world whose database may have changed. -/
theorem fromSecret_inStep_iff {password : String} (w : Stores) {log : List Call}
    (early : ∀ c ∈ log, isEarly c = true) (quiet : w.reported = false) (new : chosen given script = some password)
    (keeps : w.secret = secret) :
    InStepAfter discards user given script secret database
        (run (respond rules script) (fromSecret charm user password) ⟨w,log⟩) ↔
      (SecretWritten charm user script secret password → w.database user.username = some password) ∧
      (¬ SecretWritten charm user script secret password →
        (SecretLeaks discards charm user script secret password → secret.lookup user.key = some password) ∧
        w.database user.username = database user.username) := by
  subst keeps
  by_cases written : SecretWritten charm user script w.secret password
  · obtain ⟨log',ends⟩ := fromSecret_written early written
    rw [ends,inStep_done_iff (by simp [Failed,quiet]) new]
    simp [afterwards,written]
  · obtain ⟨failed,same,leaks,tight⟩ := fromSecret_unwritten discards early written
    rw [inStep_failed_iff failed,same]
    by_cases leaky : SecretLeaks discards charm user script w.secret password
    · rw [leaks leaky]
      simp [written,leaky,eq_comm]
    · rw [tight leaky]
      simp [written,leaky]

theorem unwritten_of_leaks {password : String} (leaks : SecretLeaks discards charm user script secret password) :
    ¬ SecretWritten charm user script secret password := by
  rintro ⟨_,⟨u,write⟩,follows⟩
  obtain ⟨_,leaks⟩ := leaks
  rw [write] at leaks
  exact leaks.2.1 (follows leaks.1)

/-- What is left of an action whose update of the database raises. -/
theorem raised_inStep_iff (e : Exn) (w : Stores) {log : List Call} (keeps : w.secret = secret) :
    InStepAfter discards user given script secret database
        (if reports e then run (respond rules script) (ask (failCall user e)) ⟨w,log⟩ else (.error e,⟨w,log⟩)) ↔
      w.database user.username = database user.username := by
  subst keeps
  by_cases caught : reports e = true
  · rcases fails : script.reply (failCall user e) (log.count (failCall user e)) with e' | u
    · rw [if_pos caught,inStep_failed_iff (by simp [Failed,respond,rules,answer,effect,fails])]
      simp [afterwards,respond,rules,answer,effect,fails]
    · rw [if_pos caught,inStep_failed_iff (by simp [Failed,respond,rules,answer,effect,fails])]
      simp [afterwards,respond,rules,answer,effect,fails]
  · rw [if_neg caught,inStep_failed_iff (.inr ⟨e,rfl⟩)]
    simp [afterwards]

theorem fromPassword_inStep_iff {password : String} {log : List Call} (early : ∀ c ∈ log, isEarly c = true)
    (unfetched : log.count (.clusterSetStatus .own) = 0)
    (unchanged : ∀ host, log.count (.updateUser (.host host) user.username password) = 0)
    (new : chosen given script = some password) {leader : Bool} (first : script.reply .isLeader 0 = .ok leader) :
    InStepAfter discards user given script secret database
        (run (respond rules script) (fromPassword charm user password) ⟨⟨secret,database,false⟩,log⟩) ↔
      StaysInStep discards charm user given script secret database := by
  have early' := @early_append log (.clusterSetStatus .own) early rfl
  rw [fromPassword_eq,updateClusterUser_total _ _ _ unfetched]
  unfold StaysInStep
  rw [first,new]
  rcases primaryHost script with e | host
  · exact (raised_inStep_iff e ⟨secret,database,false⟩ rfl).trans (iff_of_true rfl trivial)
  rcases host with _ | host
  · simp only
    rw [fromSecret_inStep_iff ⟨secret,database,false⟩ early' rfl new (rfl : _ = secret)]
    constructor
    · rintro ⟨written,unwritten⟩
      exact ⟨written,fun leaks => (unwritten (unwritten_of_leaks leaks)).1 leaks⟩
    · rintro ⟨written,leaks⟩
      exact ⟨written,fun _ => ⟨leaks,rfl⟩⟩
  simp only
  by_cases long : password.length > ClusterManager.passwordMaxLen
  · rw [if_pos long]
    exact (raised_inStep_iff ⟨.valueError,"Password is too long"⟩ ⟨secret,database,false⟩ rfl).trans
      (iff_of_true rfl (.inl long))
  rw [if_neg long]
  have count : (log ++ [Call.clusterSetStatus .own]).count (.updateUser (.host host) user.username password) = 0 := by
    simp [unchanged host]
  rcases update : script.reply (.updateUser (.host host) user.username password) 0 with e | u
  · by_cases changed : script.takesEffect (.updateUser (.host host) user.username password) 0 = true
    · simp only [respond,rules,answer,effect,count,update,changed]
      refine (raised_inStep_iff e ((⟨secret,database,false⟩ : Stores).setUser user.username password) rfl).trans ?_
      simp [Stores.setUser,long,eq_comm]
    · simp only [respond,rules,answer,effect,count,update,changed]
      exact (raised_inStep_iff e ⟨secret,database,false⟩ rfl).trans (iff_of_true rfl (Or.inr (by simp)))
  · have ends : respond rules script ⟨⟨secret,database,false⟩,log ++ [.clusterSetStatus .own]⟩
        (.updateUser (.host host) user.username password) =
        (.ok u,⟨(⟨secret,database,false⟩ : Stores).setUser user.username password,
          log ++ [.clusterSetStatus .own] ++ [.updateUser (.host host) user.username password]⟩) := by
      simp only [respond,rules,answer,effect,count,update]
    have early'' := @early_append _ (.updateUser (.host host) user.username password) early' rfl
    rw [ends]
    simp only
    rw [fromSecret_inStep_iff _ early'' rfl new (rfl : _ = secret)]
    simp only [Stores.setUser,if_true,long,false_or]
    constructor
    · rintro ⟨_,unwritten⟩
      by_cases written : SecretWritten charm user script secret password
      · exact .inl written
      · exact .inr ⟨(unwritten written).2.symm,(unwritten written).1⟩
    · rintro (written | ⟨same,leaks⟩)
      · exact ⟨fun _ => trivial,fun unwritten => absurd written unwritten⟩
      · exact ⟨fun _ => trivial,fun _ => ⟨leaks,same.symm⟩⟩

end

/-- The secret and the database stay in step exactly in these cases. -/
theorem password_inStep_iff (discards : Bool) (charm : Charm) (user : InternalUser) (given : String)
    (script : Script Call Reply Exn) (secret : Databag) (database : String → Option String) :
    InStep discards charm user given script secret database ↔
      StaysInStep discards charm user given script secret database := by
  unfold InStep play
  rw [onSetPassword,user.known]
  simp only
  rw [run_bind,isLeader,run_perform]
  rcases first : script.reply .isLeader 0 with e | leader
  · simp only [respond,rules,answer,effect,List.count_nil,first]
    exact iff_of_true (inStep_of_unchanged (.inr ⟨e,rfl⟩) rfl rfl) (by simp [StaysInStep,first])
  · have started : respond rules script ⟨⟨secret,database,false⟩,[]⟩ .isLeader =
        (.ok true,⟨⟨secret,database,false⟩,[.isLeader]⟩) := by
      simp [respond,rules,answer,effect,first]
    rw [started]
    simp only [if_true]
    by_cases empty : given = ""
    · rw [if_pos empty,run_bind,ClusterManager.createSystemPassword,InstanceClient.createPassword,run_perform]
      rcases draw : script.reply .randomPassword 0 with e | password
      · have drawn : chosen given script = none := by simp [chosen,empty,draw]
        have ends : respond rules script ⟨⟨secret,database,false⟩,[.isLeader]⟩ .randomPassword =
            (.error e,⟨⟨secret,database,false⟩,[.isLeader,.randomPassword]⟩) := by
          simp [respond,rules,answer,effect,draw]
        rw [ends]
        exact iff_of_true (inStep_of_unchanged (.inr ⟨e,rfl⟩) rfl rfl) (by simp [StaysInStep,first,drawn])
      · have drawn : chosen given script = some password := by simp [chosen,empty,draw]
        have ends : respond rules script ⟨⟨secret,database,false⟩,[.isLeader]⟩ .randomPassword =
            (.ok password,⟨⟨secret,database,false⟩,[.isLeader,.randomPassword]⟩) := by
          simp [respond,rules,answer,effect,draw]
        rw [ends]
        exact fromPassword_inStep_iff (by simp [isEarly]) (by simp) (by simp) drawn first
    · have kept : chosen given script = some given := by simp [chosen,empty]
      rw [if_neg empty]
      exact fromPassword_inStep_iff (by simp [isEarly]) (by simp) (by simp) kept first

/-- The cluster-set has no primary, and every other call succeeds. -/
def noPrimaryScript : Script Call Reply Exn where
  reply c _ := match c with
    | .clusterSetStatus _ => .ok ⟨"cluster",[("cluster",⟨"NOT_OK",none⟩)]⟩
    | _ => .ok default
  takesEffect _ _ := false

def replicationUser : InternalUser := ⟨usernameReplication,passwordKeyReplication,by decide⟩

/-- Without a primary the action stores the new password in the secret alone and
    reports nothing. -/
theorem missing_primary_outOfStep :
    ¬ InStep true ⟨.vm,"mysql",0,"cluster","10.0.0.10"⟩ replicationUser "new-password" noPrimaryScript
      [(passwordKeyReplication,"old-password")] (fun _ => some "old-password") := by
  intro inStep
  have agree := inStep.1 rfl
  revert agree
  decide

end MysqlOperators.Passwords
