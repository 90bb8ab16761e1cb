import MysqlOperators.Bootstrap

/-!
The names of a cluster. Each leader-elected hook writes both names to the application
databag, from an option that may have changed since, from what the databag held when
the hook began, or at random, while the cluster keeps the names that it was created
under.
-/
namespace MysqlOperators.ClusterIdentity
open MysqlOperators.Program MysqlOperators.Program.Prog MysqlOperators.External MysqlOperators.Helpers
open MysqlOperators.Lifecycle MysqlOperators.Quiet MysqlOperators.Interleaving Contract.Local
open MysqlOperators.Bootstrap (Application pair)
open Function (update update_self update_of_ne)

/-! ### The names -/

inductive Name where
  | cluster
  | clusterSet
deriving DecidableEq, Repr

namespace Name

/-- The key in the application databag. -/
def key : Name → String
  | cluster => "cluster-name"
  | clusterSet => "cluster-set-domain-name"

def option : Name → String
  | cluster => "cluster_name"
  | clusterSet => "cluster_set_name"

def all : List Name := [cluster,clusterSet]

theorem mem_all (i : Name) : i ∈ all := by cases i <;> decide

theorem key_injective {i j : Name} (same : i.key = j.key) : i = j := by
  cases i <;> cases j <;> first | rfl | (revert same; decide)

theorem option_injective {i j : Name} (same : i.option = j.option) : i = j := by
  cases i <;> cases j <;> first | rfl | (revert same; decide)

end Name

/-! ### The application -/

/-- A hook that has not ended: the databag when it began, the options that it has read,
    and what it has written. -/
structure Pending where
  seen : String → Option String
  read : String → Option (Option String)
  staged : String → Option String

namespace Pending

def none : Pending := ⟨fun _ => .none,fun _ => .none,fun _ => .none⟩

/-- The name that an option stands for: its text if it is set, else the name that the
    databag held. -/
def meant (p : Pending) (i : Name) (option : Option String) : Option String :=
  (nonEmpty option).or (nonEmpty (p.seen i.key))

end Pending

/-- The leader, the options, the application databag, the hooks of the units, and the
    databag as it was when the cluster was created. -/
structure World where
  leader : Option UnitId
  options : String → Option String
  data : String → Option String
  hook : UnitId → Pending
  created : Option (String → Option String)

inductive Act where
  | elect (leader : Option UnitId)
  | configure (option : String) (value : Option String)
  /-- A unit creates the cluster under the names in the databag, if they are there. -/
  | create

namespace World

/-- Juju reads the databag once for a hook; the hook sees its own writes as well. -/
def answer (w : World) (u : UnitId) : (c : Call) → Except Exn (Reply c) → Except Exn (Reply c)
  | .configValue option, .ok _ => .ok (w.options option)
  | .appData key, .ok _ => .ok (((w.hook u).staged key).or ((w.hook u).seen key))
  | _, r => r

def write (w : World) (u : UnitId) (key value : String) : World :=
  { w with hook := update w.hook u { w.hook u with staged := update (w.hook u).staged key (some value) } }

def effect (w : World) (u : UnitId) (c : Call) (r : Except Exn (Reply c)) (happened : Bool) : World :=
  match c,r with
  | .configValue option, .ok value =>
    { w with hook := update w.hook u { w.hook u with read := update (w.hook u).read option (some value) } }
  | .setAppData key value, .ok _ => w.write u key value
  | .setAppData key value, .error _ => if happened then w.write u key value else w
  | _, _ => w

/-- The writes of a hook that has succeeded reach the databag if its unit still leads,
    those of a failed one are discarded. -/
def finish (w : World) (u : UnitId) (_ : Unit) (r : Except Exn Unit) : World :=
  { w with
    data := if r = .ok () ∧ w.leader = some u then fun key => ((w.hook u).staged key).or (w.data key) else w.data
    hook := update w.hook u .none }

/-- There is no cluster, and the databag holds both names. -/
def ready (w : World) : Bool := w.created.isNone && Name.all.all fun i => (nonEmpty (w.data i.key)).isSome

def act (w : World) : Act → World
  | .elect leader => { w with leader := leader }
  | .configure option value => { w with options := update w.options option value }
  | .create => if w.ready then { w with created := some w.data } else w

end World

namespace Application
variable (app : Application)

/-- The elected unit runs the hook. -/
def begin_ (w : World) (u : UnitId) (_ : Unit) : Option World :=
  if u ∈ app.units ∧ w.leader = some u then
    some { w with hook := update w.hook u { Pending.none with seen := w.data } }
  else none

def system : System UnitId Unit Call Reply Exn Unit World Act where
  program u _ := onLeaderElected (app.charm u)
  answer := World.answer
  effect := World.effect
  begin_ := begin_ app
  finish := World.finish
  act := World.act

end Application

/-- The calls that a program makes with a databag and replies that do not change. -/
def reads (data : String → Option String) (reply : (c : Call) → Except Exn (Reply c)) (w : Unit) (c : Call) :
    Except Exn (Reply c) × Unit :=
  (match c with
   | .appData key => (reply (.appData key)).map (fun _ => data key)
   | c => reply c,w)

/-- The databag holds the names that the cluster was created under, and what `initialized`
    answers is what it would answer with the databag of that time. -/
def SameIdentity (w : World) : Prop :=
  ∀ held, w.created = some held → (∀ i : Name, w.data i.key = held i.key) ∧ ∀ charm reply,
    run (reads w.data reply) (initialized charm) () = run (reads held reply) (initialized charm) ()

/-- Once the cluster has been created, a hook finds in an option the name that the cluster
    was created under, or the option is unset and the databag held that name when the hook
    began. Of the hooks under way at the creation the same holds for what they have read. -/
def settled (app : Application) : Condition UnitId Call Reply Exn World Act where
  call w u c r _ :=
    match w.created,c,r with
    | some held, .configValue option, .ok value =>
      Name.all.all fun i => i.option != option || (w.hook u).meant i value == nonEmpty (held i.key)
    | _, _, _ => true
  act w a :=
    match a with
    | .create => !w.ready || app.units.all fun u => Name.all.all fun i =>
      match (w.hook u).read i.option with
      | none => true
      | some value => (w.hook u).meant i value == nonEmpty (w.data i.key)
    | _ => true

/-! ### What a hook knows -/

section
variable (app : Application)

structure Inv (w : World) : Prop where
  idle : ∀ u, u ∉ app.units → w.hook u = .none
  written : ∀ u (i : Name) text, (w.hook u).staged i.key = some text →
    ∃ value, (w.hook u).read i.option = some value ∧ ∀ name, (w.hook u).meant i value = some name → text = name
  named : ∀ held, w.created = some held → ∀ i : Name, nonEmpty (held i.key) ≠ none
  kept : ∀ held, w.created = some held → ∀ i : Name, w.data i.key = held i.key
  found : ∀ held, w.created = some held → ∀ u (i : Name) value, (w.hook u).read i.option = some value →
    (w.hook u).meant i value = nonEmpty (held i.key)

def contract : Contract UnitId Call Reply Exn World Act where
  condition := settled app
  inv := Inv app
  guarantee u w w' := ∀ v, v ≠ u → w'.hook v = w.hook v
  environment w w' := w'.hook = w.hook
  safe _ _ _ := True

def duties : Contract.Duties UnitId Unit Exn Unit World where
  starts u _ w := u ∈ app.units ∧ ∀ i : Name, (w.hook u).staged i.key = none
  ends _ _ _ _ := True

variable {app} {u : UnitId} {P : Pending → Prop}

variable (app u) in
/-- The knowledge of a unit about its hook, for the rules. -/
def view : Contract.Local (contract app) (Application.system app) u Pending :=
  owning (Application.system app) (fun w => w.hook u) (by
    rintro w w' _ _ (environment | ⟨v,other,guarantee⟩)
    · exact congrFun environment u
    · exact guarantee u (Ne.symm other))

/-- The option of a name stands for `value`, and the hook has not written the name. -/
def Found (i : Name) (value : Option String) (p : Pending) : Prop :=
  p.staged i.key = none ∧ p.read i.option = some value

/-- A hook of a unit moves on. -/
theorem inv_hook {w : World} (inv : Inv app w) (member : u ∈ app.units) (p : Pending)
    (written : ∀ (i : Name) text, p.staged i.key = some text →
      ∃ value, p.read i.option = some value ∧ ∀ name, p.meant i value = some name → text = name)
    (found : ∀ held, w.created = some held → ∀ (i : Name) value, p.read i.option = some value →
      p.meant i value = nonEmpty (held i.key)) : Inv app { w with hook := update w.hook u p } := by
  refine ⟨fun v outside => ?_,fun v i text staged => ?_,inv.named,inv.kept,fun held created v i value read => ?_⟩
  · have other : v ≠ u := by
      rintro rfl
      exact outside member
    simp only [update_of_ne other]
    exact inv.idle v outside
  · by_cases own : v = u
    · subst own
      simp only [update_self] at staged ⊢
      exact written i text staged
    · simp only [update_of_ne own] at staged ⊢
      exact inv.written v i text staged
  · by_cases own : v = u
    · subst own
      simp only [update_self] at read ⊢
      exact found held created i value read
    · simp only [update_of_ne own] at read ⊢
      exact inv.found held created v i value read

theorem guarantee_hook (w : World) (p : Pending) : (contract app).guarantee u w { w with hook := update w.hook u p } :=
  fun _ other => update_of_ne other ..

/-- A call that leaves the hook as it is. -/
def plain : Call → Bool
  | .configValue _ | .setAppData _ _ => false
  | _ => true

theorem effect_plain {c : Call} (calm : plain c = true) (w : World) (r : Except Exn (Reply c)) (happened : Bool) :
    w.effect u c r happened = w := by
  unfold World.effect
  split <;> first | rfl | cases calm

theorem goes_free {α : Type} {p : Hook α} (calm : Avoids (fun c => plain c = false) p) :
    (view app u).Goes p P (fun _ => P) := by
  refine goes_frame (fun c other w inv known => ⟨trivial,fun raw happened _ => ?_⟩) calm
  have same (r : Except Exn (Reply c)) : (Application.system app).effect w u c r happened = w :=
    effect_plain (by simpa using other) w r happened
  rw [same]
  exact ⟨inv,fun _ _ => rfl,known⟩

theorem goes_option (member : u ∈ app.units) (i : Name) {F : Pending → Prop}
    (frame : ∀ p value, F p → F { p with read := update p.read i.option value }) :
    (view app u).Goes (ask (.configValue i.option)) (fun p => p.staged i.key = none ∧ F p)
      (fun r p => ∀ value, r = .ok value → Found i value p ∧ F p) := by
  refine goes_perform fun w inv known => ⟨trivial,fun raw happened allowed => ?_⟩
  cases raw with
  | error e => exact ⟨inv,fun _ _ => rfl,nofun⟩
  | ok _ =>
    refine ⟨inv_hook inv member _ (fun k text staged => ?_) (fun held created k value read => ?_),
      guarantee_hook w _,fun value answered => ?_⟩
    · obtain ⟨value,read,meant⟩ := inv.written u k text staged
      refine ⟨value,?_,meant⟩
      have other : k.option ≠ i.option := by
        intro same
        rw [Name.option_injective same,known.1] at staged
        cases staged
      simp only [update_of_ne other]
      exact read
    · by_cases same : k.option = i.option
      · obtain rfl := Name.option_injective same
        simp only [contract,settled,created] at allowed
        have right := List.all_eq_true.mp allowed k (Name.mem_all k)
        simp only [update_self,Option.some.injEq] at read
        rw [← read]
        simpa [Pending.meant] using right
      · simp only [update_of_ne same] at read
        exact inv.found held created u k value read
    · obtain rfl : w.options i.option = value := Except.ok.inj answered
      obtain ⟨unwritten,framed⟩ := known
      simp only [Found,Application.system,World.answer,World.effect,update_self]
      exact ⟨⟨unwritten,trivial⟩,frame _ _ framed⟩

section
variable (member : u ∈ app.units) {i : Name} {F : Pending → Prop} (value : Option String)
variable (frame : ∀ p text, F p → F { p with staged := update p.staged i.key (some text) })
include member frame

theorem goes_write (text : String) :
    (view app u).Goes (ask (.setAppData i.key text))
      (fun p => (Found i value p ∧ F p) ∧ ∀ name, p.meant i value = some name → text = name) (fun _ => F) := by
  refine goes_perform fun w inv known => ⟨trivial,fun raw happened _ => ?_⟩
  obtain ⟨⟨⟨_,read⟩,framed⟩,meant⟩ := known
  have wrote : Inv app (w.write u i.key text) ∧ (contract app).guarantee u w (w.write u i.key text) ∧
      F ((w.write u i.key text).hook u) := by
    refine ⟨inv_hook inv member _ (fun k staged now => ?_) (fun held created k value' read' => ?_),
      guarantee_hook w _,?_⟩
    · by_cases same : k.key = i.key
      · obtain rfl := Name.key_injective same
        obtain rfl : text = staged := by simpa using now
        exact ⟨value,read,meant⟩
      · simp only [update_of_ne same] at now
        exact inv.written u k staged now
    · exact inv.found held created u k value' read'
    · simp only [World.write,update_self]
      exact frame _ _ framed
  cases raw with
  | ok _ => exact wrote
  | error e =>
    cases happened with
    | true => exact wrote
    | false => exact ⟨inv,fun _ _ => rfl,framed⟩

omit member frame in
theorem goes_appData :
    (view app u).Goes (ask (.appData i.key)) (fun p => Found i value p ∧ F p)
      (fun r p => (∀ data, r = .ok data → p.seen i.key = data) ∧ Found i value p ∧ F p) := by
  refine goes_perform fun w inv known => ⟨trivial,fun raw happened _ => ?_⟩
  have same (r : Except Exn (Reply (.appData i.key))) :
      (Application.system app).effect w u (.appData i.key) r happened = w :=
    effect_plain (u := u) rfl w r happened
  rw [same]
  refine ⟨inv,fun _ _ => rfl,fun data answered => ?_,known⟩
  cases raw with
  | error e => cases answered
  | ok _ =>
    have unwritten : (w.hook u).staged i.key = none := known.1.1
    simp only [Application.system,World.answer,unwritten,Option.none_or] at answered
    exact Except.ok.inj answered

theorem goes_setName (namePrefix : String) :
    (view app u).Goes (LifecycleManager.setName i.key namePrefix value) (fun p => Found i value p ∧ F p)
      (fun _ => F) := by
  refine goes_bind (M := fun r p => (Found i value p ∧ F p) ∧ ∀ stored, r = .ok stored → p.meant i value = stored) ?_
    (fun stored => ?_) (fun e p known => known.1.2)
  · cases set_ : nonEmpty value with
    | some name =>
      refine goes_pure fun p known => ⟨known,fun stored answered => ?_⟩
      cases answered
      simp [Pending.meant,set_]
    | none =>
      refine goes_bind (goes_appData value) (fun data => ?_) (fun e p known => ⟨known.2,fun _ same => by cases same⟩)
      refine goes_pure fun p known => ⟨known.2,fun stored answered => ?_⟩
      cases answered
      simp [Pending.meant,set_,known.1 data rfl]
  cases stored with
  | some name =>
    refine goes_pre (goes_write member value frame name) fun p known => ⟨known.1,fun name' meant => ?_⟩
    rw [known.2 _ rfl] at meant
    exact Option.some.inj meant
  | none =>
    -- neither the option nor the databag has a name, so that any text will do
    refine goes_bind (goes_free (avoids_ask (fun bad => by cases bad))) (fun hash => ?_) (fun e p known => known.1.2)
    refine goes_pre (goes_write member value frame _) fun p known => ⟨known.1,fun name' meant => ?_⟩
    rw [known.2 _ rfl] at meant
    cases meant

end

theorem calm_newPasswords : ∀ keys, Avoids (fun c => plain c = false) (newPasswords keys)
  | [] => trivial
  | _ :: rest => avoids_bind (avoids_ask nofun) fun _ => avoids_bind (calm_newPasswords rest) fun _ => trivial

theorem calm_fetchPasswords (charm : Charm) : Avoids (fun c => plain c = false) (fetchPasswords charm) := by
  have secret : Avoids (fun c => plain c = false) (SecretStore.getSecret (secretLabel charm)) :=
    avoids_tryExcept (avoids_ask nofun) fun _ => trivial
  exact avoids_tryExcept (avoids_bind secret fun _ => avoids_ask nofun) fun _ => trivial

theorem goes_onLeaderElected (member : u ∈ app.units) (charm : Charm) :
    (view app u).Goes (onLeaderElected charm) (fun p => ∀ i : Name, p.staged i.key = none) (fun _ _ => True) := by
  have clusterSet : (view app u).Goes (do
      let setName ← ask (.configValue "cluster_set_name")
      LifecycleManager.setClusterSetName setName : Hook Unit)
      (fun p => p.staged Name.clusterSet.key = none) (fun _ _ => True) := by
    refine goes_bind (goes_pre (goes_option member .clusterSet (F := fun _ => True) fun _ _ => id)
      fun p unwritten => ⟨unwritten,trivial⟩) (fun setName => ?_) (fun _ _ _ => trivial)
    exact goes_pre (goes_setName member (i := .clusterSet) setName (fun _ _ => id) "cluster-set")
      fun p known => known setName rfl
  have named : (view app u).Goes (do
      LifecycleManager.setLeaderFlag true
      let name ← ask (.configValue "cluster_name")
      LifecycleManager.setClusterName name
      let setName ← ask (.configValue "cluster_set_name")
      LifecycleManager.setClusterSetName setName : Hook Unit)
      (fun p => ∀ i : Name, p.staged i.key = none) (fun _ _ => True) := by
    refine goes_bind (goes_free (avoids_ask nofun)) (fun _ => ?_) (fun _ _ _ => trivial)
    refine goes_bind (goes_pre (goes_option member .cluster (F := fun p => p.staged Name.clusterSet.key = none)
      fun _ _ => id) fun p unwritten => ⟨unwritten _,unwritten _⟩) (fun name => ?_) (fun _ _ _ => trivial)
    refine goes_bind (goes_pre (goes_setName member (i := .cluster) name (fun p text unwritten => ?_) "cluster")
      fun p known => known name rfl) (fun _ => clusterSet) (fun _ _ _ => trivial)
    simpa [Name.key] using unwritten
  refine goes_bind (goes_free (calm_fetchPasswords charm)) (fun _ => ?_) (fun _ _ _ => trivial)
  refine goes_ite _ (fun _ => ?_) (fun _ => named)
  have created : Avoids (fun c => plain c = false) (createPasswords charm) :=
    avoids_bind (calm_newPasswords _) fun _ => avoids_ask nofun
  exact goes_bind (goes_free created) (fun _ => named) (fun _ _ _ => trivial)

/-! ### Runs -/

theorem inv_begin {w w' : World} (inv : Inv app w) (begun : Application.begin_ app w u () = some w') :
    Inv app w' ∧ (contract app).guarantee u w w' ∧ (duties app).starts u () w' := by
  unfold Application.begin_ at begun
  split at begun
  · rename_i ready
    cases begun
    refine ⟨inv_hook inv ready.1 _ nofun (fun _ _ _ _ => nofun),guarantee_hook w _,ready.1,fun i => ?_⟩
    simp [Pending.none]
  · cases begun

theorem inv_finish {w : World} (inv : Inv app w) (r : Except Exn Unit) : Inv app (w.finish u () r) := by
  have unread (v : UnitId) : (w.finish u () r).hook v = if v = u then .none else w.hook v := by
    simp [World.finish,Function.update_apply]
  refine ⟨fun v outside => ?_,fun v i text staged => ?_,inv.named,fun held created i => ?_,
    fun held created v i value read => ?_⟩
  · rw [unread]
    split
    · rfl
    · exact inv.idle v outside
  · rw [unread] at staged ⊢
    split at staged
    · cases staged
    · rename_i other
      rw [if_neg other]
      exact inv.written v i text staged
  · have before := inv.kept held created i
    simp only [World.finish]
    split
    · cases staged : (w.hook u).staged i.key with
      | none => simpa [staged] using before
      | some text =>
        -- what is written is what the option stood for, and that is the name of the cluster
        obtain ⟨value,read,meant⟩ := inv.written u i text staged
        have named := inv.named held created i
        obtain ⟨name,holds⟩ := Option.ne_none_iff_exists'.mp named
        have same : text = name := meant name ((inv.found held created u i value read).trans holds)
        have held_ : held i.key = some name := (eq_nonEmpty named).trans holds
        simp [staged,same,held_]
    · exact before
  · rw [unread] at read ⊢
    split at read
    · cases read
    · rename_i other
      rw [if_neg other]
      exact inv.found held created v i value read

theorem acts (w : World) (a : Act) (inv : Inv app w) (allowed : (settled app).act w a = true) :
    Inv app (w.act a) ∧ (contract app).environment w (w.act a) := by
  cases a with
  | elect leader => exact ⟨⟨inv.idle,inv.written,inv.named,inv.kept,inv.found⟩,rfl⟩
  | configure option value => exact ⟨⟨inv.idle,inv.written,inv.named,inv.kept,inv.found⟩,rfl⟩
  | create =>
    simp only [World.act]
    split
    · rename_i ready
      have named (i : Name) : nonEmpty (w.data i.key) ≠ none := by
        have holds := List.all_eq_true.mp (Bool.and_eq_true_iff.mp ready).2 i (Name.mem_all i)
        exact Option.isSome_iff_ne_none.mp holds
      have chosen : (app.units.all fun v => Name.all.all fun i =>
          match (w.hook v).read i.option with
          | none => true
          | some value => (w.hook v).meant i value == nonEmpty (w.data i.key)) = true := by
        simpa only [settled,ready,Bool.not_true,Bool.false_or] using allowed
      refine ⟨⟨inv.idle,inv.written,fun held created i => ?_,fun held created i => ?_,
        fun held created v i value read => ?_⟩,rfl⟩
      · cases created
        exact named i
      · cases created
        rfl
      · cases created
        have read : (w.hook v).read i.option = some value := read
        by_cases member : v ∈ app.units
        · have right := List.all_eq_true.mp (List.all_eq_true.mp chosen v member) i (Name.mem_all i)
          simpa [read] using right
        · rw [inv.idle v member] at read
          cases read
    · exact ⟨inv,rfl⟩

theorem fulfils : (contract app).Fulfils (Application.system app) (duties app) where
  begins _ _ _ _ inv begun := inv_begin inv begun
  finishes _ _ _ r inv _ := ⟨inv_finish inv r,fun _ other => update_of_ne other ..⟩
  acts := acts
  jobs _ _ := Contract.outline_assuming fun member =>
    Contract.outline_post (goes_onLeaderElected member _) (fun _ _ _ _ => trivial)
  lasts u _ _ := (contract app).stable_const u True

end

/-- The other settings of the application make no difference to `initialized`. -/
theorem initialized_same {data held : String → Option String} (same : ∀ i : Name, data i.key = held i.key)
    (charm : Charm) (reply : (c : Call) → Except Exn (Reply c)) :
    run (reads data reply) (initialized charm) () = run (reads held reply) (initialized charm) () := by
  have free : Avoids (fun c => ∃ key, c = .appData key ∧ key ≠ "cluster-name") (initialized charm) := by
    refine avoids_initialized (fun c asks => ?_) (by simp) (by simp) charm
    rintro ⟨key,rfl,_⟩
    cases asks
  refine run_congr (fun w c other => ?_) free ()
  unfold reads
  cases c with
  | appData key =>
    have name : key = Name.cluster.key := by
      by_contra different
      exact other ⟨key,rfl,different⟩
    subst name
    simp only [same .cluster]
  | _ => rfl

/-- Before the first hook, with any options and any databag. -/
def before (leader : Option UnitId) (options data : String → Option String) : World :=
  ⟨leader,options,data,fun _ => .none,none⟩

/-- In every run of elections, changes of the options and leader-elected hooks, with
    failures of any calls. -/
theorem sameIdentity_of_settled (app : Application) (leader : Option UnitId) (options data : String → Option String)
    (labels : List (Label UnitId Unit Call Reply Exn Act))
    (allowed : (Application.system app).allAllowed (settled app) (idle (before leader options data)) labels = true) :
    SameIdentity ((Application.system app).run (idle (before leader options data)) labels).world := by
  have fresh : Inv app (before leader options data) := ⟨fun _ _ => rfl,nofun,nofun,nofun,nofun⟩
  have bound := Contract.bound_run (@fulfils app) (Contract.bound_idle fresh) labels allowed
  intro held created
  have kept := bound.1.kept held created
  exact ⟨kept,fun charm reply => by rw [initialized_same kept]⟩

/-- Every call succeeds, and the instance is a member of `cluster-`. -/
def replies : (c : Call) → Except Exn (Reply c)
  | .snapPresent | .snapServiceActive => .ok true
  | .clusterLabels _ => .ok ["cluster-"]
  | _ => .ok default

/-- The first unit chooses names, and the cluster is created. -/
def named : List (Label UnitId Unit Call Reply Exn Act) := Label.whole 0 () replies 20 ++ [.act .create]

/-- The second leader finds the name of the cluster in the option. -/
def confirmed : List (Label UnitId Unit Call Reply Exn Act) :=
  named ++ [.act (.configure "cluster_name" (some "cluster-")),.act (.elect (some 1))] ++ Label.whole 1 () replies 20

/-- The second leader finds another name in the option. -/
def renamed : List (Label UnitId Unit Call Reply Exn Act) :=
  named ++ [.act (.configure "cluster_name" (some "orders")),.act (.elect (some 1))] ++ Label.whole 1 () replies 20

abbrev start : State UnitId Unit Call Reply Exn Unit World := idle (before (some 0) (fun _ => none) (fun _ => none))

theorem sameIdentity_confirmed :
    SameIdentity ((Application.system pair).run start confirmed).world ∧
      ((Application.system pair).run start confirmed).world.created.isSome = true :=
  ⟨sameIdentity_of_settled pair (some 0) (fun _ => none) (fun _ => none) confirmed (by decide +kernel),
    by decide +kernel⟩

/-- The second unit writes another name, and the instance does not count as initialised
    any more. -/
theorem renamed_loses :
    ¬ ∀ (app : Application) (leader : Option UnitId) (options data : String → Option String)
      (labels : List (Label UnitId Unit Call Reply Exn Act)),
        SameIdentity ((Application.system app).run (idle (before leader options data)) labels).world := by
  intro always
  have same := always pair (some 0) (fun _ => none) (fun _ => none) renamed
  have member : ((Application.system pair).run start renamed).world.created.all (fun held =>
      (run (reads held replies) (initialized (pair.charm 0)) ()).1 == .ok true) = true := by decide +kernel
  have lost : (run (reads ((Application.system pair).run start renamed).world.data replies)
      (initialized (pair.charm 0)) ()).1 = .ok false := by decide +kernel
  have some_ : ((Application.system pair).run start renamed).world.created.isSome = true := by decide +kernel
  obtain ⟨held,created⟩ := Option.isSome_iff_exists.mp some_
  rw [created] at member
  rw [(same held created).2] at lost
  simp only [Option.all_some,lost] at member
  cases member

end MysqlOperators.ClusterIdentity
