import MysqlOperators.BackupListing
import MysqlOperators.Interleaving
import MysqlOperators.RestoreSafety
import MysqlOperators.Restarts

/-!
The hosts of the units and the storage of their backups. The tools stream what they read
and may break off anywhere, and the servers write on; a tool that exits with 0 has done
its work. What is stored for a server is of a server, and a server that runs has all of
its data, or all that was found under a path where no backup had stored its data.
-/
namespace MysqlOperators.BackupWorld
open MysqlOperators.Program MysqlOperators.Program.Prog MysqlOperators.External MysqlOperators.Workload
open MysqlOperators.Helpers MysqlOperators.Backup MysqlOperators.Restore MysqlOperators.Interleaving
open MysqlOperators.Quiet MysqlOperators.BackupReport MysqlOperators.BackupListing
open MysqlOperators.RestoreSafety (Under extracted optionValues pathPattern)
open MysqlOperators.Restarts (Application)
open MysqlOperators.Wildcards (Matches)

/-! ### What is stored -/

/-- What the directories of a server hold: nothing, the data of a server, all that was
    found under a path where no backup had stored its data, or anything else. -/
inductive Data (δ : Type) where
  | empty
  | holds (data : δ)
  | fragment (path : String)
  | mixed
deriving DecidableEq, Repr

/-- What is read from the storage under a path: the data of a server, if a backup has
    stored all of it there, and how often it has been replaced. -/
structure Stream (δ : Type) where
  path : String
  data : Option δ
  version : Nat
deriving DecidableEq, Repr

def Stream.content {δ : Type} (stream : Stream δ) : Data δ :=
  match stream.data with
  | some data => .holds data
  | none => .fragment stream.path

/-- A process of a pipeline. One that backs up has read the data of the server once it
    has all of it, and one that downloads has handed its stream over or not; what has not
    got so far when its reader ends is broken. -/
inductive Process (δ : Type) where
  | backup (data : Option δ)
  | upload (source : Nat) (path : String)
  | download (stream : Stream δ) (whole : Bool)
  | extract (source : Nat) (directory : List Char)
  | broken
  | other
deriving DecidableEq, Repr

/-- The process may exit with 0. -/
def Process.finished {δ : Type} : Process δ → Bool
  | .backup none | .download _ false | .broken => false
  | _ => true

/-- The data of a unit's server that was stored under a path. -/
structure Snapshot (δ : Type) where
  unit : UnitId
  path : String
  data : δ
deriving DecidableEq, Repr

/-- The host of a unit: the data and whether the server runs, the processes of the
    action, the directories into which streams were extracted (as a whole or not) and
    whether they are prepared, the identifier that a restore was asked for, what was under
    its path when the restore began and how often that had been replaced, the data with
    which it has started the server, whether it has reported its completion, and all the
    data that the server has had while it ran. -/
structure Host (δ : Type) where
  data : Data δ
  running : Bool
  processes : List (Process δ)
  directories : List Char → Option (Option (Stream δ) × Bool)
  asked : String
  wanted : Option δ
  since : Nat
  launched : Option (Data δ)
  completed : Bool
  had : List δ

/-- The data of servers that is stored, how often what is under a path has been replaced,
    and the snapshots that were stored. -/
structure Store (δ : Type) where
  objects : String → Option δ
  replaced : String → Nat
  taken : List (Snapshot δ)

structure World (δ : Type) where
  host : UnitId → Host δ
  store : Store δ

variable {δ : Type}

namespace Store

def read (s : Store δ) (path : String) : Stream δ := ⟨path,s.objects path,s.replaced path⟩

def put (s : Store δ) (u : UnitId) (path : String) (data : Option δ) : Store δ where
  objects := Function.update s.objects path data
  replaced := Function.update s.replaced path (s.replaced path + 1)
  taken := s.taken ++ data.toList.map fun data => ⟨u,path,data⟩

/-- What was replaced while it was read is of no one server. -/
def delivered (s : Store δ) (stream : Stream δ) : Stream δ :=
  if s.replaced stream.path = stream.version then stream else { stream with data := none }

end Store

/-! ### Commands -/

/-- The process that a command starts. -/
def started (s : Substrate) (read : String → Stream δ) (command : List String) : Option Nat → Process δ
  | some source =>
    match extracted s command with
    | directory :: _ => .extract source directory
    | [] => if command.take 2 = [binary s "xbcloud","put"] then .upload source (command.getLast?.getD "") else .other
  | none =>
    if command.take 2 = [binary s "xbcloud","get"] then .download (read (command.getLast?.getD "")) false
    else if command.head? = some (binary s "xtrabackup") ∧ "--backup" ∈ command then .backup none
    else .other

namespace Host

/-- What a process that backs up has read. -/
def backedUp (h : Host δ) (process : Nat) : Option δ :=
  match h.processes[process]? with
  | some (.backup data) => data
  | _ => none

/-- What a process that downloads has handed over, if it is the whole of it. -/
def fetched (h : Host δ) (process : Nat) : Option (Stream δ) :=
  match h.processes[process]? with
  | some (.download stream true) => some stream
  | _ => none

/-- The reader of a process has ended. -/
def closed (h : Host δ) (process : Nat) : Host δ :=
  { h with processes := h.processes.modify process fun found => if found.finished then found else .broken }

def advance (h : Host δ) (process : Nat) (next : Process δ) : Host δ :=
  { h with processes := h.processes.set process next }

def fill (h : Host δ) (directory : List Char) (stream : Option (Stream δ)) : Host δ :=
  { h with directories := Function.update h.directories directory (some (stream,false)) }

/-- The data once a backup is moved back; files that are there already stay. -/
def movedBack (h : Host δ) : List (List Char) → Data δ
  | [directory] =>
    match h.data,h.directories directory with
    | .empty,some (some stream,true) => stream.content
    | _,_ => .mixed
  | _ => .mixed

/-- The data once files of a directory are deleted, all of them if it is done. -/
def cleared (s : Substrate) (h : Host δ) (directory : String) (done : Bool) : Data δ :=
  if directory = mysqlData s then if done then .empty else .mixed
  else if directory = mysqlLogs s then
    match h.data with
    | .empty => .empty
    | _ => .mixed
  else h.data

/-- A command that takes effect, to its end or not. -/
def sync (s : Substrate) (h : Host δ) (done : Bool) : Command → Host δ
  | .execute args =>
    if "--prepare" ∈ args then
      { h with directories := fun directory =>
          if (optionValues "--target-dir=" args).contains directory then
            (h.directories directory).map fun found => (if done then found.1 else none,done)
          else h.directories directory }
    else if "--move-back" ∈ args then
      { h with
        data := if done then h.movedBack (optionValues "--target-dir=" args) else .mixed
        directories := fun directory =>
          if (optionValues "--target-dir=" args).contains directory then none else h.directories directory }
    else h
  | .deleteContents path =>
    { h with
      data := h.cleared s path done
      directories := fun directory => if Under path directory then none else h.directories directory }
  | .removeMatching path pattern =>
    { h with
      data := h.cleared s path false
      directories := fun directory =>
        if Under path directory ∧ Matches (pathPattern pattern) directory then none else h.directories directory }
  | .removeOthers path pattern =>
    { h with
      data := h.cleared s path done
      directories := fun directory =>
        if Under path directory ∧ ¬ Matches (pathPattern pattern) directory then none else h.directories directory }
  | .initializeServer _ => { h with data := .mixed }
  | .changeOwner _ _ | .findDataFiles _ => h

def launch (h : Host δ) : Host δ :=
  { h with
    running := true
    launched := some h.data
    had := match h.data with
      | .holds data => data :: h.had
      | _ => h.had }

/-- A call that concerns the host alone. -/
def after (s : Substrate) (h : Host δ) (c : Call) (r : Except Exn (Reply c)) (happened : Bool) : Host δ :=
  if r.isOk || happened then
    match c with
    | .executeSync command => h.sync s r.isOk command
    | .snapStop service | .containerStop service =>
      if service = ServerService.name then { h with running := false } else h
    | .snapStart service | .containerStart service =>
      if service = ServerService.name then h.launch else h
    | .setResults key _ => if key = "completed" then { h with completed := true } else h
    | _ => h
  else h

end Host

/-! ### Actions -/

inductive Job where
  | create (force : Bool)
  | restore (given : String)
deriving DecidableEq, Repr

/-- A process has read the data, a process has handed over its stream, a server writes,
    a server ends. -/
inductive Act (δ : Type) where
  | copy (u : UnitId) (process : Nat)
  | deliver (u : UnitId) (process : Nat)
  | write (u : UnitId) (data : δ)
  | crash (u : UnitId)

section
variable (app : Application) (storage : Option BackupStorage)

def substrate (u : UnitId) : Substrate := (app.charm u).substrate
def manager (u : UnitId) : BackupManager := ⟨substrate app u,storage⟩
def folder : String := (storage.map BackupStorage.bucketPath).getD ""
def pathOf (id : String) : String := folder storage ++ "/" ++ id

namespace World

def setHost (w : World δ) (u : UnitId) (h : Host δ) : World δ := { w with host := Function.update w.host u h }

/-- An upload replaces what is under its path. -/
def startProcess (w : World δ) (u : UnitId) (process : Process δ) : World δ :=
  { w.setHost u { w.host u with processes := (w.host u).processes ++ [process] } with
    store := match process with
      | .upload _ path => w.store.put u path none
      | _ => w.store }

/-- A process has ended, and has done its work or not. -/
def settle (w : World δ) (u : UnitId) (process : Nat) (done : Bool) : World δ :=
  match (w.host u).processes[process]? with
  | some (.upload source path) =>
    { w.setHost u ((w.host u).closed source) with
      store := w.store.put u path (if done then (w.host u).backedUp source else none) }
  | some (.extract source directory) =>
    w.setHost u (((w.host u).closed source).fill directory (if done then (w.host u).fetched source else none))
  | _ => w

def exited (r : Except Exn Int) (happened : Bool) : Bool :=
  match r with
  | .ok code => code == 0
  | .error _ => happened

/-- No process that has not finished exits with 0. -/
def answer (w : World δ) (u : UnitId) : (c : Call) → Except Exn (Reply c) → Except Exn (Reply c)
  | .startProcess _ _ _,.ok _ => .ok (w.host u).processes.length
  | .waitProcess process,.ok code =>
    .ok (if ((w.host u).processes[process]?.map Process.finished).getD true || code != 0 then code else 1)
  | _,r => r

def effect (w : World δ) (u : UnitId) (c : Call) (r : Except Exn (Reply c)) (happened : Bool) : World δ :=
  match c,r with
  | .startProcess command _ stdin,r =>
    if r.isOk || happened then w.startProcess u (started (substrate app u) w.store.read command stdin) else w
  | .waitProcess process,r => w.settle u process (exited r happened)
  | c,r => w.setHost u ((w.host u).after (substrate app u) c r happened)

def begin_ (w : World δ) (u : UnitId) (job : Job) : World δ :=
  let asked := match job with
    | .create _ => ""
    | .restore given => cleanId given
  w.setHost u { w.host u with
    processes := []
    asked := asked
    wanted := w.store.objects (pathOf storage asked)
    since := w.store.replaced (pathOf storage asked)
    launched := none
    completed := false }

def act (w : World δ) : Act δ → World δ
  | .copy u process =>
    match (w.host u).processes[process]?,(w.host u).data,(w.host u).running with
    | some (.backup none),.holds data,true =>
      w.setHost u ((w.host u).advance process (.backup (some data)))
    | _,_,_ => w
  | .deliver u process =>
    match (w.host u).processes[process]? with
    | some (.download stream false) =>
      w.setHost u ((w.host u).advance process (.download (w.store.delivered stream) true))
    | _ => w
  | .write u data =>
    match (w.host u).data,(w.host u).running with
    | .holds _,true => w.setHost u { w.host u with data := .holds data, had := data :: (w.host u).had }
    | _,_ => w
  | .crash u => w.setHost u { w.host u with running := false }

end World

def system : System UnitId Job Call Reply Exn Unit (World δ) (Act δ) where
  program u
    | .create force => onCreateBackup (app.charm u) (manager app storage u) force
    | .restore given => onRestoreBackup (app.charm u) (manager app storage u) given
  answer w u := w.answer u
  effect w u c r happened := w.effect app u c r happened
  begin_ w u job := some (w.begin_ storage u job)
  finish w _ _ _ := w
  act := World.act

end

/-- Servers that run, each with its data, and an empty storage. -/
def fresh (data : UnitId → δ) : World δ :=
  ⟨fun u => ⟨.holds (data u),true,[],fun _ => none,"",none,0,none,false,[data u]⟩,⟨fun _ => none,fun _ => 0,[]⟩⟩

/-! ### The contract -/

section
variable (app : Application) (storage : Option BackupStorage)

/-- The path that a restore reads from. -/
def source (h : Host δ) : String := pathOf storage h.asked

def Stored (taken : List (Snapshot δ)) (path : String) (data : δ) : Prop :=
  ∃ snapshot ∈ taken, snapshot.path = path ∧ snapshot.data = data

/-- Nothing has been uploaded to the path since the restore began. -/
def Unreplaced (s : Store δ) (h : Host δ) : Prop := s.replaced (source storage h) = h.since

/-- What a restore may start the server with: the data that was stored under the path, or
    all that was found there. Data that was there from the beginning is what it has to be. -/
structure Restored (s : Store δ) (h : Host δ) (x : Data δ) : Prop where
  found : (∃ data, x = .holds data ∧ Stored s.taken (source storage h) data) ∨ x = .fragment (source storage h)
  wanted : Unreplaced storage s h → ∀ data, h.wanted = some data → x = .holds data

/-- The server has all of its data, or all that was found under a path. -/
def Serves (h : Host δ) : Prop := (∃ data ∈ h.had, h.data = .holds data) ∨ ∃ path, h.data = .fragment path

/-- A download of what was asked for reads what was there from the beginning. -/
def Reads (s : Store δ) (h : Host δ) (stream : Stream δ) : Prop :=
  stream.path = source storage h → Unreplaced storage s h → stream.version = h.since ∧ stream.data = h.wanted

/-- What a process downloads is of stored snapshots, what it has backed up is of what the
    server has had, and it uploads to the path of a moment. -/
def Process.Sound (s : Store δ) (h : Host δ) : Process δ → Prop
  | .download stream _ => (∀ data, stream.data = some data → Stored s.taken stream.path data) ∧ Reads storage s h stream
  | .backup data => ∀ content, data = some content → content ∈ h.had
  | .upload _ path => ∃ t, path = pathOf storage (idOf t)
  | _ => True

/-- The processes are sound, what has been extracted is of stored snapshots, and a server
    that runs has its data; one that a restore started has that of a snapshot or what was
    under its path, and it was started before the restore was reported. -/
structure Good (s : Store δ) (h : Host δ) : Prop where
  began : h.since ≤ s.replaced (source storage h)
  wanted : Unreplaced storage s h → s.objects (source storage h) = h.wanted
  processes : ∀ found ∈ h.processes, found.Sound storage s h
  extracted : ∀ directory stream done, h.directories directory = some (some stream,done) →
    ∀ data, stream.data = some data → Stored s.taken stream.path data
  launched : ∀ x, h.launched = some x → Restored storage s h x
  completed : h.completed = true → h.launched.isSome = true
  serving : h.running = true → Serves h

structure Inv (w : World δ) : Prop where
  stored : ∀ path data, w.store.objects path = some data → Stored w.store.taken path data
  named : ∀ snapshot ∈ w.store.taken, ∃ t, snapshot.path = pathOf storage (idOf t)
  had : ∀ snapshot ∈ w.store.taken, snapshot.data ∈ (w.host snapshot.unit).had
  good : ∀ u, Good storage w.store (w.host u)

/-- Snapshots are added, and what is under a path is replaced. -/
structure Grows (s s' : Store δ) : Prop where
  taken : ∀ snapshot ∈ s.taken, snapshot ∈ s'.taken
  replaced : ∀ path, s.replaced path ≤ s'.replaced path
  objects : ∀ path, s'.replaced path = s.replaced path → s'.objects path = s.objects path

/-- A process reads on, or hands its stream over. -/
def Advances (before after : Process δ) : Prop :=
  after = before ∨ (before = .backup none ∧ ∃ data, after = .backup (some data)) ∨
    ∃ stream stream', before = .download stream false ∧ after = .download stream' true ∧ stream'.path = stream.path

/-- Hosts with the same restore. -/
structure SameRestore (h h' : Host δ) : Prop where
  asked : h'.asked = h.asked
  wanted : h'.wanted = h.wanted
  since : h'.since = h.since

/-- What happens to a host between the calls of its action: processes go on, and a server
    that runs writes or ends. -/
structure Drift (h h' : Host δ) : Prop where
  directories : h'.directories = h.directories
  restore : SameRestore h h'
  launched : h'.launched = h.launched
  completed : h'.completed = h.completed
  processes : ∀ (process : Nat) found, h.processes[process]? = some found →
    ∃ later, h'.processes[process]? = some later ∧ Advances found later
  stopped : h.running = false → h'.running = false ∧ h'.data = h.data

def contract : Contract UnitId Call Reply Exn (World δ) (Act δ) where
  condition := System.unrestricted
  inv := Inv storage
  guarantee u w w' := (∀ v, v ≠ u → w'.host v = w.host v) ∧ Grows w.store w'.store
  environment w w' := (∀ u, Drift (w.host u) (w'.host u)) ∧ w'.store = w.store
  safe _ _ _ := True

def duties : Contract.Duties UnitId Job Exn Unit (World δ) where
  starts u job w := ∀ given, job = .restore given → (w.host u).asked = cleanId given
  ends _ _ _ _ := True

/-- Calls that touch the data of the server. -/
def touches (s : Substrate) : Command → Bool
  | .execute args => !decide ("--prepare" ∈ args) && decide ("--move-back" ∈ args)
  | .deleteContents path | .removeMatching path _ | .removeOthers path _ => path = mysqlData s ∨ path = mysqlLogs s
  | .initializeServer _ => true
  | .changeOwner _ _ | .findDataFiles _ => false

/-- What a call needs to keep the invariant. -/
def Allowed (w : World δ) (u : UnitId) : Call → Prop
  | .startProcess command _ stdin => ∀ from_ path,
      started (substrate app u) w.store.read command stdin = .upload from_ path →
        ∃ t, path = pathOf storage (idOf t)
  | .executeSync command => touches (substrate app u) command = true → (w.host u).running = false
  | .snapStart _ | .containerStart _ => Restored storage w.store (w.host u) (w.host u).data
  | .setResults key _ => key = "completed" → (w.host u).launched.isSome = true
  | _ => True

end

section
variable {app : Application} {storage : Option BackupStorage} {u : UnitId}

theorem stored_mono {taken taken' : List (Snapshot δ)} (more : ∀ snapshot ∈ taken, snapshot ∈ taken') {path : String}
    {data : δ} (stored : Stored taken path data) : Stored taken' path data := by
  obtain ⟨snapshot,member,rest⟩ := stored
  exact ⟨snapshot,more snapshot member,rest⟩

theorem grows_refl (s : Store δ) : Grows s s := ⟨fun _ => id,fun _ => Nat.le_refl _,fun _ _ => rfl⟩

theorem grows_put (s : Store δ) (path : String) (data : Option δ) : Grows s (s.put u path data) := by
  refine ⟨fun snapshot member => List.mem_append_left _ member,fun other => ?_,fun other same => ?_⟩
  · by_cases replaced : other = path
    · subst replaced
      simp [Store.put]
    · simp [Store.put,replaced]
  · by_cases replaced : other = path
    · subst replaced
      simp [Store.put] at same
    · simp [Store.put,replaced]

/-- What is not replaced until later has not been replaced before. -/
theorem unreplaced_mono {s s' : Store δ} (grows : Grows s s') {h : Host δ}
    (began : h.since ≤ s.replaced (source storage h)) (later : Unreplaced storage s' h) : Unreplaced storage s h :=
  Nat.le_antisymm ((grows.replaced _).trans (Nat.le_of_eq later)) began

theorem source_same {h h' : Host δ} (same : SameRestore h h') : source storage h' = source storage h := by
  rw [source,source,same.asked]

theorem unreplaced_same {s : Store δ} {h h' : Host δ} (same : SameRestore h h') :
    Unreplaced storage s h' ↔ Unreplaced storage s h := by
  rw [Unreplaced,Unreplaced,source_same same,same.since]

theorem restored_mono {s s' : Store δ} (grows : Grows s s') {h : Host δ}
    (began : h.since ≤ s.replaced (source storage h)) {x : Data δ} (restored : Restored storage s h x) :
    Restored storage s' h x where
  found := restored.found.imp_left fun ⟨data,holds,stored⟩ => ⟨data,holds,stored_mono grows.taken stored⟩
  wanted later := restored.wanted (unreplaced_mono grows began later)

theorem restored_same {s : Store δ} {h h' : Host δ} (same : SameRestore h h') {x : Data δ}
    (restored : Restored storage s h x) : Restored storage s h' x := by
  refine ⟨?_,fun unreplaced data wanted => ?_⟩
  · rw [source_same same]
    exact restored.found
  · exact restored.wanted ((unreplaced_same same).mp unreplaced) data (same.wanted ▸ wanted)

theorem sound_mono {s s' : Store δ} (grows : Grows s s') {h : Host δ} (began : h.since ≤ s.replaced (source storage h))
    {process : Process δ} (sound : process.Sound storage s h) : process.Sound storage s' h := by
  cases process with
  | download stream whole =>
    exact ⟨fun data has => stored_mono grows.taken (sound.1 data has),
      fun path later => sound.2 path (unreplaced_mono grows began later)⟩
  | backup | upload | extract | broken | other => exact sound

theorem sound_same {s : Store δ} {h h' : Host δ} (same : SameRestore h h') (had : ∀ data ∈ h.had, data ∈ h'.had)
    {process : Process δ} (sound : process.Sound storage s h) : process.Sound storage s h' := by
  cases process with
  | download stream whole =>
    refine ⟨sound.1,fun path unreplaced => ?_⟩
    rw [source_same same] at path
    rw [same.since,same.wanted]
    exact sound.2 path ((unreplaced_same same).mp unreplaced)
  | backup data => exact fun content has => had content (sound content has)
  | upload | extract | broken | other => exact sound

theorem good_mono {s s' : Store δ} (grows : Grows s s') {h : Host δ} (good : Good storage s h) :
    Good storage s' h where
  began := good.began.trans (grows.replaced _)
  wanted later := by
    have before := unreplaced_mono grows good.began later
    exact (grows.objects _ (later.trans before.symm)).trans (good.wanted before)
  processes found member := sound_mono grows good.began (good.processes found member)
  extracted directory stream done found data has :=
    stored_mono grows.taken (good.extracted directory stream done found data has)
  launched x started := restored_mono grows good.began (good.launched x started)
  completed := good.completed
  serving := good.serving

/-- What keeps a host good: its restore is the same, its processes are the old ones or
    sound, its streams are the old ones or of stored snapshots, and what its restore has
    started and its server has is as it should be. -/
theorem good_same {s : Store δ} {h h' : Host δ} (good : Good storage s h) (same : SameRestore h h')
    (had : ∀ data ∈ h.had, data ∈ h'.had)
    (processes : ∀ found ∈ h'.processes, found ∈ h.processes ∨ found.Sound storage s h')
    (extracted : ∀ directory stream done, h'.directories directory = some (some stream,done) →
      (∃ done, h.directories directory = some (some stream,done)) ∨
        ∀ data, stream.data = some data → Stored s.taken stream.path data)
    (launched : h'.launched = h.launched ∨ ∀ x, h'.launched = some x → Restored storage s h' x)
    (completed : h'.completed = true → h'.launched.isSome = true) (serving : h'.running = true → Serves h') :
    Good storage s h' where
  began := by
    rw [source_same same,same.since]
    exact good.began
  wanted unreplaced := by
    rw [source_same same,same.wanted]
    exact good.wanted ((unreplaced_same same).mp unreplaced)
  processes found member := (processes found member).elim
    (fun before => sound_same same had (good.processes found before)) id
  extracted directory stream done found := (extracted directory stream done found).elim
    (fun ⟨done,before⟩ => good.extracted directory stream done before) id
  launched x started := launched.elim (fun before => restored_same same (good.launched x (before ▸ started)))
    (fun restored => restored x started)
  completed := completed
  serving := serving

/-- The same where the processes and the directories are left alone. -/
theorem good_server {s : Store δ} {h h' : Host δ} (good : Good storage s h) (same : SameRestore h h')
    (had : ∀ data ∈ h.had, data ∈ h'.had) (processes : h'.processes = h.processes)
    (directories : h'.directories = h.directories)
    (launched : h'.launched = h.launched ∨ ∀ x, h'.launched = some x → Restored storage s h' x)
    (completed : h'.completed = true → h'.launched.isSome = true) (serving : h'.running = true → Serves h') :
    Good storage s h' := by
  refine good_same good same had (fun found member => .inl ?_) (fun directory stream done found => .inl ⟨done,?_⟩)
    launched completed serving
  · rwa [← processes]
  · rwa [← directories]

theorem good_processes {s : Store δ} {h : Host δ} (good : Good storage s h) {processes : List (Process δ)}
    (sound : ∀ found ∈ processes, found ∈ h.processes ∨ found.Sound storage s h) :
    Good storage s { h with processes := processes } := by
  refine good_same good ⟨rfl,rfl,rfl⟩ (fun _ => id) (fun found member => ?_) (fun _ _ done found => .inl ⟨done,found⟩)
    (.inl rfl) good.completed good.serving
  exact (sound found member).imp_right (sound_same ⟨rfl,rfl,rfl⟩ fun _ => id)

/-- A command leaves streams in directories, or removes them. -/
theorem sync_directories {s : Substrate} {h : Host δ} {done : Bool} {command : Command} {directory : List Char}
    {stream : Stream δ} {prepared : Bool}
    (found : (h.sync s done command).directories directory = some (some stream,prepared)) :
    ∃ prepared, h.directories directory = some (some stream,prepared) := by
  have removes (gone : Prop) [Decidable gone]
      (found : (if gone then none else h.directories directory) = some (some stream,prepared)) :
      ∃ prepared, h.directories directory = some (some stream,prepared) := by
    split at found
    · cases found
    · exact ⟨prepared,found⟩
  cases command with
  | findDataFiles | changeOwner | initializeServer => exact ⟨prepared,found⟩
  | deleteContents | removeMatching | removeOthers => exact removes _ found
  | execute args =>
    rw [Host.sync] at found
    split at found
    · dsimp only at found
      split at found
      · obtain ⟨⟨before,done'⟩,there,same⟩ := Option.map_eq_some_iff.mp found
        cases done with
        | false => cases same
        | true =>
          obtain ⟨rfl,rfl⟩ : before = some stream ∧ true = prepared := by simpa using same
          exact ⟨done',there⟩
      · exact ⟨prepared,found⟩
    · split at found
      · exact removes _ found
      · exact ⟨prepared,found⟩

/-- A command changes the data and the directories alone. -/
theorem sync_frame (s : Substrate) (h : Host δ) (done : Bool) (command : Command) :
    h.sync s done command = { h with
      data := (h.sync s done command).data
      directories := (h.sync s done command).directories } := by
  cases command with
  | execute args =>
    rw [Host.sync]
    split
    · rfl
    · split <;> rfl
  | _ => rfl

theorem sync_data {s : Substrate} {h : Host δ} {done : Bool} {command : Command} (spares : touches s command = false) :
    (h.sync s done command).data = h.data := by
  have elsewhere (path : String) (done : Bool) (spares : decide (path = mysqlData s ∨ path = mysqlLogs s) = false) :
      h.cleared s path done = h.data := by
    obtain ⟨data,logs⟩ := not_or.mp (of_decide_eq_false spares)
    rw [Host.cleared,if_neg data,if_neg logs]
  cases command with
  | findDataFiles | changeOwner => rfl
  | deleteContents | removeMatching | removeOthers => exact elsewhere _ _ spares
  | initializeServer => cases spares
  | execute args =>
    rw [Host.sync]
    split
    · rfl
    · split
      · simp_all [touches]
      · rfl

theorem good_sync {store : Store δ} {s : Substrate} {h : Host δ} (good : Good storage store h) (done : Bool)
    {command : Command} (stopped : touches s command = true → h.running = false) :
    Good storage store (h.sync s done command) := by
  have frame := sync_frame s h done command
  have had : (h.sync s done command).had = h.had := by rw [frame]
  refine good_same good ⟨?_,?_,?_⟩ (fun data before => ?_) (fun found member => ?_)
    (fun _ _ _ found => .inl (sync_directories found)) (.inl ?_) ?_ fun runs => ?_
  · rw [frame]
  · rw [frame]
  · rw [frame]
  · rwa [had]
  · rw [frame] at member
    exact .inl member
  · rw [frame]
  · rw [frame]
    exact good.completed
  · rw [frame] at runs
    cases touched : touches s command with
    | true =>
      rw [stopped touched] at runs
      cases runs
    | false =>
      rw [Serves,sync_data touched,had]
      exact good.serving runs

theorem good_stop {s : Store δ} {h : Host δ} (good : Good storage s h) :
    Good storage s { h with running := false } :=
  good_server good ⟨rfl,rfl,rfl⟩ (fun _ => id) rfl rfl (.inl rfl) good.completed nofun

theorem launch_had {h : Host δ} {data : δ} (before : data ∈ h.had) : data ∈ h.launch.had := by
  unfold Host.launch
  dsimp only
  split
  · exact List.mem_cons_of_mem _ before
  · exact before

theorem good_launch {s : Store δ} {h : Host δ} (good : Good storage s h) (restored : Restored storage s h h.data) :
    Good storage s h.launch := by
  have same : SameRestore h h.launch := ⟨rfl,rfl,rfl⟩
  refine good_server good same (fun _ => launch_had) rfl rfl (.inr fun x started => ?_) (fun _ => rfl) fun _ => ?_
  · cases started
    exact restored_same same restored
  · rcases restored.found with ⟨data,holds,-⟩ | fragment
    · exact .inl ⟨data,by simp [Host.launch,holds],holds⟩
    · exact .inr ⟨_,fragment⟩

theorem good_after {w : World δ} (good : Good storage w.store (w.host u)) {c : Call} (r : Except Exn (Reply c))
    (happened : Bool) (allowed : Allowed app storage w u c) :
    Good storage w.store ((w.host u).after (substrate app u) c r happened) := by
  unfold Host.after
  split
  case isFalse => exact good
  split
  · exact good_sync good _ allowed
  · split
    · exact good_stop good
    · exact good
  · split
    · exact good_stop good
    · exact good
  · split
    · exact good_launch good allowed
    · exact good
  · split
    · exact good_launch good allowed
    · exact good
  · split
    · exact good_server good ⟨rfl,rfl,rfl⟩ (fun _ => id) rfl rfl (.inl rfl) (fun _ => allowed ‹_›) good.serving
    · exact good
  · exact good

/-- A call that concerns the host alone forgets nothing of what the server has had. -/
theorem after_had {s : Substrate} {h : Host δ} {c : Call} {r : Except Exn (Reply c)} {happened : Bool} {data : δ}
    (before : data ∈ h.had) : data ∈ (h.after s c r happened).had := by
  unfold Host.after
  split
  case isFalse => exact before
  split
  · rw [sync_frame]
    exact before
  · split <;> exact before
  · split <;> exact before
  · split
    · exact launch_had before
    · exact before
  · split
    · exact launch_had before
    · exact before
  · split <;> exact before
  · exact before

theorem inv_setHost {w : World δ} (inv : Inv storage w) {h : Host δ} (good : Good storage w.store h)
    (had : ∀ data ∈ (w.host u).had, data ∈ h.had) : Inv storage (w.setHost u h) := by
  refine ⟨inv.stored,inv.named,fun snapshot member => ?_,fun v => ?_⟩
  · have before := inv.had snapshot member
    by_cases same : snapshot.unit = u
    · rw [same] at before ⊢
      simpa [World.setHost] using had _ before
    · simpa [World.setHost,same] using before
  · by_cases same : v = u
    · subst same
      simpa [World.setHost] using good
    · simpa [World.setHost,same] using inv.good v

theorem setHost_same (w : World δ) (u : UnitId) (h : Host δ) : (w.setHost u h).host u = h := by simp [World.setHost]

theorem setHost_other (w : World δ) (h : Host δ) {v : UnitId} (other : v ≠ u) : (w.setHost u h).host v = w.host v := by
  simp [World.setHost,other]

/-- What is stored is what a server had, under the path of a moment. -/
theorem inv_put {w : World δ} (inv : Inv storage w) {path : String} {data : Option δ}
    (named : ∃ t, path = pathOf storage (idOf t)) (had : ∀ content, data = some content → content ∈ (w.host u).had) :
    Inv storage { w with store := w.store.put u path data } := by
  have grows : Grows w.store (w.store.put u path data) := grows_put w.store path data
  refine ⟨fun other content there => ?_,fun snapshot member => ?_,fun snapshot member => ?_,
    fun v => good_mono grows (inv.good v)⟩
  · by_cases same : other = path
    · subst same
      obtain rfl : data = some content := by simpa [Store.put] using there
      exact ⟨⟨u,other,content⟩,by simp [Store.put],rfl,rfl⟩
    · refine stored_mono grows.taken (inv.stored other content ?_)
      simpa [Store.put,same] using there
  · rcases List.mem_append.mp member with before | new
    · exact inv.named snapshot before
    · obtain ⟨content,_,rfl⟩ := List.mem_map.mp new
      exact named
  · rcases List.mem_append.mp member with before | new
    · exact inv.had snapshot before
    · obtain ⟨content,found,rfl⟩ := List.mem_map.mp new
      exact had content (Option.mem_toList.mp found)

/-- A process more. -/
theorem inv_startProcess {w : World δ} (inv : Inv storage w) {process : Process δ}
    (sound : process.Sound storage w.store (w.host u)) :
    Inv storage (w.startProcess u process) ∧ Grows w.store (w.startProcess u process).store := by
  have good : Good storage w.store { w.host u with processes := (w.host u).processes ++ [process] } := by
    refine good_processes (inv.good u) fun found member => ?_
    rcases List.mem_append.mp member with before | new
    · exact .inl before
    · exact .inr (List.mem_singleton.mp new ▸ sound)
  have added := inv_setHost inv good fun _ member => member
  cases process with
  | upload from_ path => exact ⟨inv_put added sound nofun,grows_put _ _ _⟩
  | _ => exact ⟨added,grows_refl _⟩

/-- What a command may start: a download of what is stored, an upload to the path at its
    end, an extraction, or a backup that has read nothing. -/
theorem started_cases (s : Substrate) (read : String → Stream δ) (command : List String) (stdin : Option Nat) :
    (∃ path, started s read command stdin = .download (read path) false) ∨
      (∃ from_ path, stdin.isSome = true ∧ command.getLast?.getD "" = path ∧
        started s read command stdin = .upload from_ path) ∨
      (∃ from_ directory, started s read command stdin = .extract from_ directory) ∨
      started s read command stdin = .backup none ∨ started s read command stdin = .other := by
  unfold started
  split
  · split
    · exact .inr (.inr (.inl ⟨_,_,rfl⟩))
    · split
      · exact .inr (.inl ⟨_,_,rfl,rfl,rfl⟩)
      · exact .inr (.inr (.inr (.inr rfl)))
  · split
    · exact .inl ⟨_,rfl⟩
    · split
      · exact .inr (.inr (.inr (.inl rfl)))
      · exact .inr (.inr (.inr (.inr rfl)))

/-- Of what a command starts, only an upload needs to be named. -/
theorem sound_started {w : World δ} (inv : Inv storage w) {s : Substrate} {command : List String} {stdin : Option Nat}
    (named : ∀ from_ path, started s w.store.read command stdin = .upload from_ path →
      ∃ t, path = pathOf storage (idOf t)) :
    (started s w.store.read command stdin).Sound storage w.store (w.host u) := by
  obtain ⟨path,same⟩ | ⟨from_,path,_,_,same⟩ | ⟨_,_,same⟩ | same | same :=
    started_cases s w.store.read command stdin
  · rw [same]
    refine ⟨fun data has => inv.stored path data has,fun (asked : path = _) unreplaced => ?_⟩
    subst asked
    exact ⟨unreplaced,(inv.good u).wanted unreplaced⟩
  · rw [same]
    exact named from_ path same
  · rw [same]
    trivial
  · rw [same]
    exact fun content has => by cases has
  · rw [same]
    trivial

theorem good_closed {s : Store δ} {h : Host δ} (good : Good storage s h) (process : Nat) :
    Good storage s (h.closed process) := by
  refine good_processes good fun found member => ?_
  obtain ⟨number,there⟩ := List.mem_iff_getElem?.mp member
  rw [List.getElem?_modify] at there
  obtain ⟨before,known,same⟩ := Option.map_eq_some_iff.mp there
  split at same
  · split at same
    · exact .inl (same ▸ List.mem_of_getElem? known)
    · rw [← same]
      exact .inr trivial
  · exact .inl (same ▸ List.mem_of_getElem? known)

theorem good_fill {s : Store δ} {h : Host δ} (good : Good storage s h) (directory : List Char)
    {found : Option (Stream δ)}
    (stored : ∀ stream, found = some stream → ∀ data, stream.data = some data → Stored s.taken stream.path data) :
    Good storage s (h.fill directory found) := by
  refine good_same good ⟨rfl,rfl,rfl⟩ (fun _ => id) (fun _ => .inl) (fun other stream done there => ?_) (.inl rfl)
    good.completed good.serving
  by_cases same : other = directory
  · subst same
    obtain ⟨rfl,-⟩ : found = some stream ∧ false = done := by simpa [Host.fill] using there
    exact .inr (stored stream rfl)
  · exact .inl ⟨done,by simpa [Host.fill,same] using there⟩

theorem inv_settle {w : World δ} (inv : Inv storage w) (process : Nat) (done : Bool) :
    Inv storage (w.settle u process done) ∧ Grows w.store (w.settle u process done).store := by
  have good := inv.good u
  unfold World.settle
  split
  · rename_i from_ path found
    have closed : Inv storage (w.setHost u ((w.host u).closed from_)) :=
      inv_setHost inv (good_closed good from_) fun _ member => member
    refine ⟨inv_put closed (good.processes _ (List.mem_of_getElem? found)) fun content read => ?_,grows_put _ _ _⟩
    rw [setHost_same]
    cases done with
    | false => cases read
    | true =>
      simp only [if_true,Host.backedUp] at read
      split at read
      · rename_i copied
        exact good.processes _ (List.mem_of_getElem? copied) content read
      · cases read
  · rename_i from_ directory found
    have closed := good_closed good from_
    refine ⟨inv_setHost inv (good_fill closed directory fun stream whole => ?_) fun _ member => member,grows_refl _⟩
    cases done with
    | false => cases whole
    | true =>
      simp only [if_true,Host.fetched] at whole
      split at whole
      · rename_i download
        cases whole
        exact (good.processes _ (List.mem_of_getElem? download)).1
      · cases whole
  · exact ⟨inv,grows_refl _⟩

theorem settle_host (w : World δ) (process : Nat) (done : Bool) {v : UnitId} (other : v ≠ u) :
    (w.settle u process done).host v = w.host v := by
  unfold World.settle
  split
  · exact setHost_other w _ other
  · exact setHost_other w _ other
  · rfl

/-- A call that is allowed keeps the invariant and leaves the other hosts alone. -/
theorem inv_effect {w : World δ} (inv : Inv storage w) {c : Call} (r : Except Exn (Reply c)) (happened : Bool)
    (allowed : Allowed app storage w u c) :
    Inv storage (w.effect app u c r happened) ∧ (∀ v, v ≠ u → (w.effect app u c r happened).host v = w.host v) ∧
      Grows w.store (w.effect app u c r happened).store := by
  unfold World.effect
  split
  · rename_i stdin _
    split
    · obtain ⟨inv',grows⟩ := inv_startProcess inv (sound_started inv allowed)
      exact ⟨inv',fun v other => setHost_other w _ other,grows⟩
    · exact ⟨inv,fun _ _ => rfl,grows_refl _⟩
  · exact ⟨(inv_settle inv _ _).1,fun v other => settle_host w _ _ other,(inv_settle inv _ _).2⟩
  · refine ⟨inv_setHost inv (good_after (inv.good u) r happened allowed) fun _ => after_had,?_,grows_refl _⟩
    exact fun v other => setHost_other w _ other

theorem drift_same {h h' : Host δ} (directories : h'.directories = h.directories) (restore : SameRestore h h')
    (launched : h'.launched = h.launched) (completed : h'.completed = h.completed)
    (processes : h'.processes = h.processes) (stopped : h.running = false → h'.running = false ∧ h'.data = h.data) :
    Drift h h' :=
  ⟨directories,restore,launched,completed,fun _ found there => ⟨found,processes ▸ there,.inl rfl⟩,stopped⟩

theorem drift_refl (h : Host δ) : Drift h h := drift_same rfl ⟨rfl,rfl,rfl⟩ rfl rfl rfl fun stopped => ⟨stopped,rfl⟩

theorem drift_setHost {w : World δ} {h : Host δ} (drift : Drift (w.host u) h) (v : UnitId) :
    Drift (w.host v) ((w.setHost u h).host v) := by
  by_cases same : v = u
  · subst same
    rw [setHost_same]
    exact drift
  · rw [setHost_other w h same]
    exact drift_refl _

theorem good_advance {s : Store δ} {h : Host δ} (good : Good storage s h) (process : Nat) {next : Process δ}
    (sound : next.Sound storage s h) : Good storage s (h.advance process next) := by
  refine good_processes good fun found member => ?_
  rcases List.mem_or_eq_of_mem_set member with before | rfl
  · exact .inl before
  · exact .inr sound

theorem drift_advance {h : Host δ} {process : Nat} {before next : Process δ}
    (reading : h.processes[process]? = some before) (advances : Advances before next) :
    Drift h (h.advance process next) := by
  refine ⟨rfl,⟨rfl,rfl,rfl⟩,rfl,rfl,fun process' found there => ?_,fun stopped => ⟨stopped,rfl⟩⟩
  by_cases same : process = process'
  · subst same
    obtain rfl : before = found := Option.some.inj (reading.symm.trans there)
    exact ⟨next,List.getElem?_set_self (List.getElem?_eq_some_iff.mp reading).1,advances⟩
  · exact ⟨found,(List.getElem?_set_ne same).trans there,.inl rfl⟩

/-- What is handed over is the stream that was read, or of no server. -/
theorem sound_delivered {s : Store δ} {h : Host δ} {stream : Stream δ}
    (sound : (Process.download stream false).Sound storage s h) :
    (Process.download (s.delivered stream) true).Sound storage s h := by
  unfold Store.delivered
  split
  · exact sound
  · rename_i replaced
    refine ⟨nofun,fun (path : stream.path = _) unreplaced => absurd ?_ replaced⟩
    rw [path,(sound.2 path unreplaced).1]
    exact unreplaced

theorem delivered_path (s : Store δ) (stream : Stream δ) : (s.delivered stream).path = stream.path := by
  unfold Store.delivered
  split <;> rfl

theorem inv_act {w : World δ} (inv : Inv storage w) (a : Act δ) :
    Inv storage (w.act a) ∧ (∀ u, Drift (w.host u) ((w.act a).host u)) ∧ (w.act a).store = w.store := by
  cases a with
  | copy u process =>
    have good := inv.good u
    rw [World.act]
    split
    · rename_i data reading holds runs
      have had : data ∈ (w.host u).had := by
        rcases good.serving runs with ⟨current,had,same⟩ | ⟨path,fragment⟩
        · obtain rfl : data = current := Data.holds.inj (holds.symm.trans same)
          exact had
        · rw [holds] at fragment
          cases fragment
      have sound : (Process.backup (some data)).Sound storage w.store (w.host u) :=
        fun content same => Option.some.inj same ▸ had
      refine ⟨inv_setHost inv (good_advance good process sound) fun _ member => member,?_,rfl⟩
      exact drift_setHost (drift_advance reading (.inr (.inl ⟨rfl,data,rfl⟩)))
    · exact ⟨inv,fun _ => drift_refl _,rfl⟩
  | deliver u process =>
    rw [World.act]
    split
    · rename_i stream reading
      have sound := sound_delivered ((inv.good u).processes _ (List.mem_of_getElem? reading))
      refine ⟨inv_setHost inv (good_advance (inv.good u) process sound) fun _ member => member,?_,rfl⟩
      exact drift_setHost (drift_advance reading (.inr (.inr ⟨stream,_,rfl,rfl,delivered_path w.store stream⟩)))
    · exact ⟨inv,fun _ => drift_refl _,rfl⟩
  | write u data =>
    have good := inv.good u
    rw [World.act]
    split
    · rename_i holds runs
      have written : Good storage w.store { w.host u with data := .holds data, had := data :: (w.host u).had } :=
        good_server good ⟨rfl,rfl,rfl⟩ (fun _ => List.mem_cons_of_mem _) rfl rfl (.inl rfl) good.completed
          fun _ => .inl ⟨data,List.mem_cons_self,rfl⟩
      refine ⟨inv_setHost inv written fun _ => List.mem_cons_of_mem _,?_,rfl⟩
      refine drift_setHost (drift_same rfl ⟨rfl,rfl,rfl⟩ rfl rfl rfl fun stopped => ?_)
      rw [runs] at stopped
      cases stopped
    · exact ⟨inv,fun _ => drift_refl _,rfl⟩
  | crash u =>
    refine ⟨inv_setHost inv (good_stop (inv.good u)) fun _ member => member,?_,rfl⟩
    exact drift_setHost (drift_same rfl ⟨rfl,rfl,rfl⟩ rfl rfl rfl fun _ => ⟨rfl,rfl⟩)

theorem begins {w : World δ} (inv : Inv storage w) (job : Job) : Inv storage (w.begin_ storage u job) := by
  have good := inv.good u
  refine inv_setHost inv ?_ fun _ member => member
  exact ⟨Nat.le_refl _,fun _ => rfl,nofun,good.extracted,nofun,nofun,good.serving⟩

/-! ### Calls -/

/-- What `u` knows of its host while nobody else touches it. -/
theorem stable_host {P : Store δ → Host δ → Prop} (drifts : ∀ s h h', Drift h h' → P s h → P s h')
    (grows : ∀ s s' h, Grows s s' → Good storage s h → P s h → P s' h) :
    (contract storage).Stable u (fun w => P w.store (w.host u)) := by
  rintro w w' inv - holds (⟨drift,same⟩ | ⟨v,other,kept,more⟩)
  · rw [same]
    exact drifts _ _ _ (drift u) holds
  · rw [kept u (Ne.symm other)]
    exact grows _ _ _ more (inv.good u) holds

theorem takes_call {c : Call} {L : World δ → Prop} {Q : Except Exn (Reply c) → World δ → Prop}
    (allowed : ∀ w, Inv storage w → L w → Allowed app storage w u c)
    (post : ∀ w raw happened, Inv storage w → L w →
      Q (w.answer u c raw) (w.effect app u c (w.answer u c raw) happened)) :
    (contract storage).Takes (system app storage) u c L Q := by
  refine fun w inv holds => ⟨trivial,fun raw happened _ => ?_⟩
  have kept := inv_effect inv (w.answer u c raw) happened (allowed w inv holds)
  exact ⟨kept.1,kept.2,post w raw happened inv holds⟩

/-- Calls that change neither the host nor the storage. -/
def idles : Call → Bool
  | .startProcess _ _ _ | .waitProcess _ | .executeSync _ | .snapStart _ | .snapStop _ | .containerStart _
  | .containerStop _ | .setResults _ _ => false
  | _ => true

theorem idle_effect {c : Call} (idle : idles c = true) (w : World δ) (r : Except Exn (Reply c)) (happened : Bool) :
    w.effect app u c r happened = w := by
  have same : w.setHost u (w.host u) = w := by simp [World.setHost]
  cases c with
  | startProcess | waitProcess | executeSync | snapStart | snapStop | containerStart | containerStop | setResults =>
    cases idle
  | _ => exact (congrArg (w.setHost u) (ite_self _)).trans same

theorem idle_allowed {c : Call} (idle : idles c = true) (w : World δ) : Allowed app storage w u c := by
  cases c with
  | startProcess | waitProcess | executeSync | snapStart | snapStop | containerStart | containerStop | setResults =>
    cases idle
  | _ => trivial

/-- A part of an action that changes nothing. -/
theorem outline_idle {α : Type} {p : Hook α} {L : World δ → Prop} (stable : (contract storage).Stable u L)
    (avoids : Avoids (Outside idles) p) : (contract storage).Outline (system app storage) u p L (fun _ => L) := by
  refine Contract.outline_frame stable (fun c changes => ?_) avoids
  have idle : idles c = true := by simpa [Outside] using changes
  refine takes_call (fun w _ _ => idle_allowed idle w) (fun w raw happened _ holds => ?_)
  rw [idle_effect idle]
  exact holds

end

end MysqlOperators.BackupWorld
