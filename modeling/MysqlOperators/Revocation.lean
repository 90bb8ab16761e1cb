import MysqlOperators.Interleaving
import MysqlOperators.Databases
import MysqlOperators.Quiet
import Mathlib.Logic.Function.Basic

/-!
The users of a database relation that is removed. Every unit handles the departures
of the relation's units and its relation-broken event, while leadership moves, units
are removed, and clients of the relation create users of their own. A hook that
raises is run again.
-/
namespace MysqlOperators.Revocation
open MysqlOperators.Program MysqlOperators.Program.Prog MysqlOperators.External MysqlOperators.Clients
open MysqlOperators.Workload MysqlOperators.Helpers MysqlOperators.Databases MysqlOperators.Quiet
open MysqlOperators.Interleaving
open MysqlOperators.DatabaseUsers (buildDatabaseRelationUsername)
open Function (update update_self update_of_ne)

/-! ### The application -/

structure Application where
  units : List UnitId
  charm : UnitId → Charm
  relation : Nat
  modelUuid : String

inductive Job where
  | relationBroken
  | relationDeparted (unit : String)
deriving DecidableEq, Repr

/-- The users of the cluster-set, the leader, the units with the removing flag, those
    that have been removed and those that have handled relation-broken. A unit that
    runs that hook has got past its checks, and deletes the users when it leads. -/
structure World where
  users : List UserInfo
  leader : Option UnitId
  removing : UnitId → Bool
  gone : UnitId → Bool
  handled : UnitId → Bool
  breaking : UnitId → Bool
  checked : UnitId → Bool
  deleting : UnitId → Bool

inductive Act where
  | elect (leader : Option UnitId)
  | leave (u : UnitId)
  /-- A client of the relation creates a user. -/
  | create (user : UserInfo)
deriving DecidableEq, Repr

namespace World

def begin_ (w : World) (u : UnitId) : Job → Option World
  | .relationBroken =>
    if w.gone u || w.handled u then none
    else some { w with
      breaking := update w.breaking u true, checked := update w.checked u false, deleting := update w.deleting u false }
  | .relationDeparted _ => if w.gone u then none else some { w with breaking := update w.breaking u false }

/-- A relation-broken hook that raises will be run again. -/
def finish (w : World) (u : UnitId) : Job → Except Exn Unit → World
  | .relationBroken, .ok _ => { w with handled := update w.handled u true, deleting := update w.deleting u false }
  | .relationBroken, .error _ => { w with checked := update w.checked u false, deleting := update w.deleting u false }
  | .relationDeparted _, _ => w

end World

namespace Application
variable (app : Application)

/-- The user of the relation. -/
def username : String := buildDatabaseRelationUsername app.modelUuid app.relation

/-- Its account, which serves every host. -/
def account : String × String := (app.username,"%")

def isChild (user : UserInfo) : Bool := user.attributes.contains ("created_by_user",app.username)

def revoked (w : World) : Bool := w.users.all (fun user => user.account != app.account && !app.isChild user)

def program (u : UnitId) : Job → Hook Unit
  | .relationBroken => onRelationBroken app.relation
  | .relationDeparted unit => onRelationDeparted (app.charm u) app.relation unit

def answer (w : World) (u : UnitId) : (c : Call) → Except Exn (Reply c) → Except Exn (Reply c)
  | .unitData _, .ok _ => .ok (if w.removing u then some "removing" else none)
  | .isLeader, .ok _ => .ok (w.leader == some u)
  | .modelUuid, .ok _ => .ok app.modelUuid
  | .searchUsers _ attributes, .ok _ =>
    .ok (w.users.filter (fun user => attributes.all user.attributes.contains))
  | _, r => r

def change (w : World) (u : UnitId) : Call → World
  | .setUnitData _ _ => { w with removing := update w.removing u true }
  | .deleteUser _ name host => { w with users := w.users.filter (fun user => user.account != (name,host)) }
  | .deleteUsers _ users =>
    { w with users := w.users.filter (fun user => !(users.map UserInfo.account).contains user.account) }
  | _ => w

def effect (w : World) (u : UnitId) (c : Call) (r : Except Exn (Reply c)) (happened : Bool) : World :=
  match c,r with
  | .isLeader, .ok leads =>
    if w.breaking u then { w with checked := update w.checked u true, deleting := update w.deleting u leads } else w
  | c, .ok _ => change w u c
  | c, .error _ => if happened then change w u c else w

/-- No user is created for the relation once its own user is gone. -/
def act (w : World) : Act → World
  | .elect leader => { w with leader := leader }
  | .leave u => { w with gone := update w.gone u true }
  | .create user =>
    if w.users.any (fun creator => creator.account == app.account) then { w with users := w.users ++ [user] } else w

def system : System UnitId Job Call Reply Exn Unit World Act where
  program := app.program
  answer := app.answer
  effect := effect
  begin_ := World.begin_
  finish := World.finish
  act := app.act

/-- The users are gone, or the leader is a unit of the application that is not being
    removed and has the check of relation-broken before it, or deletes them. -/
def responsible (w : World) : Bool :=
  app.revoked w || match w.leader with
    | none => false
    | some l => app.units.contains l && !w.gone l && !w.removing l && (!w.checked l || w.deleting l)

end Application

/-- When every unit that remains has handled relation-broken, the users are gone. -/
def Revokes (app : Application) (s : State UnitId Job Call Reply Exn Unit World) : Prop :=
  (∀ u ∈ app.units, s.world.gone u = true ∨ s.world.handled u = true) → app.revoked s.world = true

/-- The leader stays responsible, and no call of the deletion raises a RuntimeError
    or finds no primary. -/
def dutiful (app : Application) : Condition UnitId Call Reply Exn World Act where
  call w u c r _ :=
    match c,r with
    | .setUnitData _ _, _ => app.revoked w || w.leader != some u
    | .clusterSetStatus _, .ok report => !w.deleting u || sober (DatabaseManager.primaryIn report)
    | _, r => !w.deleting u || sober r
  act w a := app.responsible (app.act w a)

/-! ### The contract -/

section
variable (app : Application)

/-- The user of the relation is gone, and with it those who could create another. -/
def Deposed (w : World) : Prop := ∀ user ∈ w.users, user.account ≠ app.account

structure Inv (w : World) : Prop where
  responsible : app.responsible w = true
  handled : ∀ u, w.handled u = true → w.deleting u = false ∧ (w.checked u = true ∨ w.removing u = true)

/-- The users do not become more once the user of the relation is gone. -/
def Shrinks (w w' : World) : Prop := Deposed app w → ∀ user ∈ w'.users, user ∈ w.users

/-- The settings of a unit and what it has done about relation-broken. -/
def Same (u : UnitId) (w w' : World) : Prop :=
  w'.removing u = w.removing u ∧ w'.handled u = w.handled u ∧ w'.breaking u = w.breaking u ∧
    w'.checked u = w.checked u ∧ w'.deleting u = w.deleting u

def contract : Contract UnitId Call Reply Exn World Act where
  condition := dutiful app
  inv := Inv app
  guarantee u w w' := Shrinks app w w' ∧ ∀ v, v ≠ u → Same v w w'
  environment w w' := Shrinks app w w' ∧ ∀ v, Same v w w'
  safe _ _ _ := True

/-- A relation-broken hook that returns has been skipped by a unit that is removed or
    does not lead, or has deleted the users. -/
def duties : Contract.Duties UnitId Job Exn Unit World where
  starts u job w := w.breaking u = (job == .relationBroken) ∧ (job = .relationBroken → w.handled u = false)
  ends u job r w := job = .relationBroken → (w.handled u = false ∧ w.breaking u = true) ∧ ((∃ a, r = .ok a) →
    w.removing u = true ∨ w.checked u = true ∧ (w.deleting u = false ∨ app.revoked w = true))

variable {app} {u : UnitId} {α : Type}

theorem revoked_iff {w : World} :
    app.revoked w = true ↔ Deposed app w ∧ ∀ user ∈ w.users, app.isChild user = false := by
  simp only [Application.revoked,Deposed,List.all_eq_true,Bool.and_eq_true,bne_iff_ne,Bool.not_eq_true']
  exact ⟨fun all => ⟨fun x m => (all x m).1,fun x m => (all x m).2⟩,fun both x m => ⟨both.1 x m,both.2 x m⟩⟩

theorem deposed_shrinks {w w' : World} (shrinks : Shrinks app w w') (deposed : Deposed app w) : Deposed app w' :=
  fun user member => deposed user (shrinks deposed user member)

theorem revoked_shrinks {w w' : World} (shrinks : Shrinks app w w') (revoked : app.revoked w = true) :
    app.revoked w' = true := by
  obtain ⟨deposed,childless⟩ := revoked_iff.mp revoked
  exact revoked_iff.mpr
    ⟨deposed_shrinks shrinks deposed,fun user member => childless user (shrinks deposed user member)⟩

/-- Knowledge about the own unit and about users that stay away. -/
theorem stable_of {L : World → Prop} (kept : ∀ w w', Shrinks app w w' → Same u w w' → L w → L w') :
    (contract app).Stable u L := by
  rintro w w' _ _ holds (environment | ⟨v,other,guarantee⟩)
  · exact kept w w' environment.1 (environment.2 u) holds
  · exact kept w w' guarantee.1 (guarantee.2 u (Ne.symm other)) holds

theorem responsible_iff {w : World} : app.responsible w = true ↔ app.revoked w = true ∨ ∃ l, w.leader = some l ∧
    l ∈ app.units ∧ w.gone l = false ∧ w.removing l = false ∧ (w.checked l = false ∨ w.deleting l = true) := by
  unfold Application.responsible
  cases w.leader with
  | none => simp
  | some l => simp [and_assoc]

/-- Nothing but the users changes, and they do not come back. -/
theorem inv_users {w w' : World} (inv : Inv app w) (shrinks : Shrinks app w w') (leader : w'.leader = w.leader)
    (gone : w'.gone = w.gone) (same : ∀ v, Same v w w') : Inv app w' := by
  constructor
  · refine responsible_iff.mpr ((responsible_iff.mp inv.responsible).imp (revoked_shrinks shrinks) ?_)
    rintro ⟨l,leads,unit,remains,free,may⟩
    obtain ⟨removing,-,-,checked,deleting⟩ := same l
    exact ⟨l,by rw [leader,leads],unit,by rw [gone,remains],by rw [removing,free],by rwa [checked,deleting]⟩
  · intro v handled
    obtain ⟨removing,before,-,checked,deleting⟩ := same v
    rw [deleting,checked,removing]
    exact inv.handled v (by rw [← before]; exact handled)

/-- A unit changes its own settings alone. As the leader it remains responsible, unless
    the users are gone; once it has handled relation-broken, it deletes nothing. -/
theorem inv_own {w w' : World} (inv : Inv app w) (users : w'.users = w.users) (leader : w'.leader = w.leader)
    (gone : w'.gone = w.gone) (same : ∀ v, v ≠ u → Same v w w')
    (leads : w.leader = some u → w.removing u = false → w.checked u = false ∨ w.deleting u = true →
      app.revoked w = true ∨ w'.removing u = false ∧ (w'.checked u = false ∨ w'.deleting u = true))
    (handles : w'.handled u = true → w'.deleting u = false ∧ (w'.checked u = true ∨ w'.removing u = true)) :
    Inv app w' := by
  have still : app.revoked w = true → app.revoked w' = true := by
    intro revoked
    rwa [Application.revoked,users]
  constructor
  · rcases responsible_iff.mp inv.responsible with revoked | ⟨l,leading,unit,remains,free,may⟩
    · exact responsible_iff.mpr (.inl (still revoked))
    · by_cases own : l = u
      · subst own
        rcases leads leading free may with revoked | ⟨free',may'⟩
        · exact responsible_iff.mpr (.inl (still revoked))
        · exact responsible_iff.mpr (.inr ⟨l,by rw [leader,leading],unit,by rw [gone,remains],free',may'⟩)
      · obtain ⟨removing,-,-,checked,deleting⟩ := same l own
        exact responsible_iff.mpr (.inr ⟨l,by rw [leader,leading],unit,by rw [gone,remains],by rw [removing,free],
          by rwa [checked,deleting]⟩)
  · intro v handled
    by_cases own : v = u
    · subst own
      exact handles handled
    · obtain ⟨removing,before,-,checked,deleting⟩ := same v own
      rw [deleting,checked,removing]
      exact inv.handled v (by rw [← before]; exact handled)

/-! ### Calls -/

/-- Calls that change nothing here. -/
def plain : Call → Bool
  | .isLeader | .setUnitData _ _ | .deleteUser _ _ _ | .deleteUsers _ _ => false
  | _ => true

theorem effect_plain {c : Call} (calm : plain c = true) (w : World) (r : Except Exn (Reply c)) (happened : Bool) :
    Application.effect w u c r happened = w := by
  have same : Application.change w u c = w := by
    unfold Application.change
    split <;> first | rfl | cases calm
  unfold Application.effect
  split
  · cases calm
  · exact same
  · rw [same,ite_self]

theorem takes_of {c : Call} {L : World → Prop} {Q : Except Exn (Reply c) → World → Prop}
    (outcome : ∀ w raw happened, Inv app w → L w → (dutiful app).call w u c (app.answer w u c raw) happened = true →
      Inv app (Application.effect w u c (app.answer w u c raw) happened) ∧
        (contract app).guarantee u w (Application.effect w u c (app.answer w u c raw) happened) ∧
          Q (app.answer w u c raw) (Application.effect w u c (app.answer w u c raw) happened)) :
    (contract app).Takes app.system u c L Q :=
  fun w inv holds => ⟨trivial,fun raw happened allowed => outcome w raw happened inv holds allowed⟩

theorem shrinks_refl (w : World) : Shrinks app w w := fun _ _ member => member

theorem same_refl (v : UnitId) (w : World) : Same v w w := ⟨rfl,rfl,rfl,rfl,rfl⟩

theorem takes_plain {c : Call} (calm : plain c = true) {L : World → Prop} {Q : Except Exn (Reply c) → World → Prop}
    (learns : ∀ w raw happened, Inv app w → L w → (dutiful app).call w u c (app.answer w u c raw) happened = true →
      Q (app.answer w u c raw) w) : (contract app).Takes app.system u c L Q := by
  refine takes_of fun w raw happened inv holds allowed => ?_
  rw [effect_plain calm]
  exact ⟨inv,⟨shrinks_refl w,fun v _ => same_refl v w⟩,learns w raw happened inv holds allowed⟩

theorem effect_change {c : Call} (other : c ≠ .isLeader) (w : World) (happened : Bool) :
    (∀ a, Application.effect w u c (.ok a) happened = Application.change w u c) ∧
      ∀ e, Application.effect w u c (.error e) happened = if happened then Application.change w u c else w := by
  constructor
  · intro a
    cases c <;> first | rfl | exact absurd rfl other
  · intro e
    cases c <;> rfl

/-- A deletion leaves the other users and everything else. -/
theorem takes_delete {c : Call} (other : c ≠ .isLeader) {keep : UserInfo → Bool}
    (deletes : ∀ w, Application.change w u c = { w with users := w.users.filter keep })
    {L : World → Prop} {Q : Except Exn (Reply c) → World → Prop}
    (fails : ∀ w e, L w → (dutiful app).call w u c (.error e) true = true →
      Q (.error e) w ∧ Q (.error e) { w with users := w.users.filter keep })
    (done : ∀ w a, L w → Q (.ok a) { w with users := w.users.filter keep }) :
    (contract app).Takes app.system u c L Q := by
  refine takes_of fun w raw happened inv holds allowed => ?_
  have shrinks : Shrinks app w { w with users := w.users.filter keep } :=
    fun _ _ member => (List.mem_filter.mp member).1
  have inv' : Inv app { w with users := w.users.filter keep } :=
    inv_users inv shrinks rfl rfl (fun v => ⟨rfl,rfl,rfl,rfl,rfl⟩)
  obtain ⟨onOk,onError⟩ := @effect_change u c other w happened
  generalize app.answer w u c raw = r at allowed ⊢
  cases r with
  | ok a =>
    rw [onOk,deletes]
    exact ⟨inv',⟨shrinks,fun v _ => ⟨rfl,rfl,rfl,rfl,rfl⟩⟩,done w a holds⟩
  | error e =>
    obtain ⟨before,after⟩ := fails w e holds allowed
    rw [onError,deletes]
    split
    · exact ⟨inv',⟨shrinks,fun v _ => ⟨rfl,rfl,rfl,rfl,rfl⟩⟩,after⟩
    · exact ⟨inv,⟨shrinks_refl w,fun v _ => same_refl v w⟩,before⟩

/-- The leader is marked as the one that deletes. -/
theorem takes_isLeader : (contract app).Takes app.system u .isLeader
    (fun w => w.handled u = false ∧ w.breaking u = true) (fun r w => (w.handled u = false ∧ w.breaking u = true) ∧
      ∀ leads, r = .ok leads → w.checked u = true ∧ w.deleting u = leads) := by
  refine takes_of fun w raw happened inv holds _ => ?_
  cases raw with
  | error e =>
    have unchanged : Application.effect w u .isLeader (.error e) happened = w := by
      simp [Application.effect,Application.change]
    show Inv app (Application.effect w u .isLeader (.error e) happened) ∧ _
    simp only [Application.answer,unchanged]
    exact ⟨inv,⟨shrinks_refl w,fun v _ => same_refl v w⟩,holds,nofun⟩
  | ok a =>
    simp only [Application.answer,Application.effect]
    rw [if_pos holds.2]
    have same (v : UnitId) (other : v ≠ u) : Same v w { w with
        checked := update w.checked u true, deleting := update w.deleting u (w.leader == some u) } :=
      ⟨rfl,rfl,rfl,update_of_ne other ..,update_of_ne other ..⟩
    refine ⟨inv_own inv rfl rfl rfl same (fun leads free _ => .inr ⟨free,.inr ?_⟩) (fun handled => ?_),
      ⟨fun _ _ member => member,same⟩,holds,?_⟩
    · exact (update_self ..).trans (by simp [leads])
    · rw [show w.handled u = true from handled] at holds
      cases holds.1
    · intro leads same
      cases same
      simp

/-! ### The deletion -/

/-- A unit that runs relation-broken as the leader. -/
def Deletes (u : UnitId) (w : World) : Prop :=
  (w.handled u = false ∧ w.breaking u = true) ∧ w.checked u = true ∧ w.deleting u = true

theorem deletes_same {w w' : World} (same : Same u w w') (deletes : Deletes u w) : Deletes u w' := by
  obtain ⟨-,handled,breaking,checked,deleting⟩ := same
  unfold Deletes
  rw [handled,breaking,checked,deleting]
  exact deletes

theorem stable_deletes {P : World → Prop} (kept : ∀ w w', Shrinks app w w' → P w → P w') :
    (contract app).Stable u (fun w => Deletes u w ∧ P w) :=
  stable_of fun w w' shrinks same holds => ⟨deletes_same same holds.1,kept w w' shrinks holds.2⟩

theorem sober_of_allowed {c : Call} (settings : ∀ key value, c ≠ .setUnitData key value) {w : World}
    (deletes : Deletes u w) {r : Except Exn (Reply c)} {happened : Bool}
    (allowed : (dutiful app).call w u c r happened = true) : sober r = true := by
  cases r with
  | ok a => rfl
  | error e =>
    have either : (!w.deleting u || !e.isRuntimeError) = true := by
      cases c <;> first | exact allowed | exact absurd rfl (settings _ _)
    show (!e.isRuntimeError) = true
    simpa [deletes.2.2] using either

/-- A plain call of the deletion. -/
theorem takes_sober {c : Call} (calm : plain c = true) {P : World → Prop} {R : Except Exn (Reply c) → World → Prop}
    (learns : ∀ w raw happened, Deletes u w → P w →
      (dutiful app).call w u c (app.answer w u c raw) happened = true → R (app.answer w u c raw) w) :
    (contract app).Takes app.system u c (fun w => Deletes u w ∧ P w)
      (fun r w => Deletes u w ∧ R r w ∧ sober r = true) := by
  refine takes_plain calm fun w raw happened _ holds allowed =>
    ⟨holds.1,learns w raw happened holds.1 holds.2 allowed,?_⟩
  exact sober_of_allowed (fun key value same => by subst same; cases calm) holds.1 allowed

theorem outline_primaryHost : (contract app).Outline app.system u DatabaseManager.primaryHost
    (fun w => Deletes u w ∧ True) (fun r w => Deletes u w ∧ sober r = true) := by
  rw [DatabaseManager.primaryHost_eq]
  refine Contract.outline_bind (Contract.outline_perform (stable_deletes fun _ _ _ _ => trivial)
    (takes_sober (R := fun r _ => ∀ report, r = .ok report → sober (DatabaseManager.primaryIn report) = true) rfl ?_))
    (fun report => ?_) (fun _ _ _ known => ⟨known.1,known.2.2⟩)
  · intro w raw happened deletes _ allowed report answered
    rw [answered] at allowed
    simpa [dutiful,deletes.2.2] using allowed
  · cases found : DatabaseManager.primaryIn report with
    | error e => exact fun w _ known => ⟨known.1,found ▸ known.2.1 report rfl⟩
    | ok host => exact fun w _ known => ⟨known.1,rfl⟩

theorem takes_deleteUser (target : Target) : (contract app).Takes app.system u (.deleteUser target app.username "%")
    (fun w => Deletes u w ∧ True) (fun r w => Deletes u w ∧ (∀ a, r = .ok a → Deposed app w) ∧ sober r = true) := by
  refine takes_delete (c := .deleteUser target app.username "%") nofun (fun _ => rfl) (fun w e holds allowed => ?_)
    (fun w a holds => ⟨holds.1,fun _ _ => ?_,rfl⟩)
  · have sober := sober_of_allowed (by simp) holds.1 allowed
    exact ⟨⟨holds.1,nofun,sober⟩,⟨holds.1,nofun,sober⟩⟩
  · exact fun user member => by simpa [Application.account] using (List.mem_filter.mp member).2

theorem takes_deleteUsers (target : Target) (users : List UserInfo) :
    (contract app).Takes app.system u (.deleteUsers target users)
      (fun w => Deletes u w ∧ Deposed app w ∧
        ∀ user ∈ w.users, app.isChild user = true → user.account ∈ users.map UserInfo.account)
      (fun r w => Deletes u w ∧ sober r = true ∧ ∀ a, r = .ok a → app.revoked w = true) := by
  refine takes_delete (c := .deleteUsers target users) nofun (fun _ => rfl) (fun w e holds allowed => ?_)
    (fun w a holds => ⟨holds.1,rfl,fun _ _ => ?_⟩)
  · have sober := sober_of_allowed (by simp) holds.1 allowed
    exact ⟨⟨holds.1,sober,nofun⟩,⟨holds.1,sober,nofun⟩⟩
  · refine revoked_iff.mpr ⟨fun user member => holds.2.1 user (List.mem_filter.mp member).1,fun user member => ?_⟩
    obtain ⟨before,kept⟩ := List.mem_filter.mp member
    cases child : app.isChild user with
    | false => rfl
    | true =>
      have listed := holds.2.2 user before child
      simp [listed] at kept

/-- The search lists the users that the relation's user has created. -/
theorem takes_searchUsers (target : Target) :
    (contract app).Takes app.system u (.searchUsers target [("created_by_user",app.username)])
      (fun w => Deletes u w ∧ Deposed app w)
      (fun r w => Deletes u w ∧ (Deposed app w ∧ ∀ users : List UserInfo, r = .ok users →
        ∀ user ∈ w.users, app.isChild user = true → user.account ∈ users.map UserInfo.account) ∧ sober r = true) := by
  refine takes_sober (c := .searchUsers target _) (R := fun r w => Deposed app w ∧ ∀ users : List UserInfo,
    r = .ok users → ∀ user ∈ w.users, app.isChild user = true → user.account ∈ users.map UserInfo.account) rfl ?_
  intro w raw happened _ deposed _
  refine ⟨deposed,fun users answered user member child => ?_⟩
  cases raw with
  | error e => cases answered
  | ok _ =>
    cases answered
    refine List.mem_map.mpr ⟨user,List.mem_filter.mpr ⟨member,?_⟩,rfl⟩
    simpa [Application.isChild] using child

/-- The users are deleted, unless something raises that is no RuntimeError. -/
theorem outline_deleteUsers : (contract app).Outline app.system u (DatabaseManager.deleteUsers app.username)
    (fun w => Deletes u w ∧ True)
    (fun r w => Deletes u w ∧ sober r = true ∧ ∀ a, r = .ok a → app.revoked w = true) := by
  refine Contract.outline_bind outline_primaryHost (fun host => ?_) (fun _ _ _ known => ⟨known.1,known.2,nofun⟩)
  have deposes := Contract.outline_perform (stable_deletes fun _ _ _ _ => trivial) (@takes_deleteUser app u (.host host))
  have searches := Contract.outline_perform (stable_deletes fun _ _ => deposed_shrinks)
    (@takes_searchUsers app u (.host host))
  refine Contract.outline_seq deposes (fun w _ known => ⟨known.1,trivial⟩) (fun _ => ?_)
    (fun _ _ _ known => ⟨known.1,known.2.2,nofun⟩)
  refine Contract.outline_seq searches (fun w _ known => ⟨known.1,known.2.1 () rfl⟩) (fun users => ?_)
    (fun _ _ _ known => ⟨known.1,known.2.2,nofun⟩)
  refine Contract.outline_pre (Contract.outline_perform (stable_deletes fun w w' shrinks known => ?_)
    (takes_deleteUsers (.host host) users)) ?_
  · obtain ⟨deposed,listed⟩ := known
    exact ⟨deposed_shrinks shrinks deposed,fun user member => listed user (shrinks deposed user member)⟩
  · rintro w _ ⟨deletes,⟨deposed,listed⟩,-⟩
    exact ⟨deletes,deposed,listed users rfl⟩

theorem outline_relationUsername : (contract app).Outline app.system u (relationUsername app.relation)
    (fun w => Deletes u w ∧ True)
    (fun r w => Deletes u w ∧ ∀ username, r = .ok username → username = app.username) := by
  have asks : (contract app).Takes app.system u .modelUuid (fun w => Deletes u w ∧ True)
      (fun r w => Deletes u w ∧ ∀ uuid, r = .ok uuid → uuid = app.modelUuid) := by
    refine takes_plain rfl fun w raw happened _ holds _ => ⟨holds.1,fun uuid answered => ?_⟩
    cases raw <;> cases answered
    rfl
  refine Contract.outline_bind (Contract.outline_perform (stable_deletes fun _ _ _ _ => trivial) asks)
    (fun uuid w _ known => ⟨known.1,fun username same => ?_⟩) (fun _ _ _ known => ⟨known.1,nofun⟩)
  obtain rfl := Except.ok.inj same
  rw [Application.username,known.2 uuid rfl]

/-! ### The handler -/

/-- A unit that runs relation-broken. -/
def Breaks (u : UnitId) (w : World) : Prop := w.handled u = false ∧ w.breaking u = true

theorem stable_breaks : (contract app).Stable u (Breaks u) :=
  stable_of fun _ _ _ same holds => ⟨same.2.1.trans holds.1,same.2.2.1.trans holds.2⟩

/-- A unit that is not flagged is told so. -/
theorem outline_getRemovingFlag : (contract app).Outline app.system u DatabaseManager.getRemovingFlag (Breaks u)
    (fun r w => Breaks u w ∧ (r = .ok (some true) → w.removing u = true)) := by
  have asks : (contract app).Takes app.system u (.unitData "unit-status") (Breaks u)
      (fun r w => Breaks u w ∧ (w.removing u = false → ∀ status, r = .ok status → status = none)) := by
    refine takes_plain rfl fun w raw happened _ holds _ => ⟨holds,fun free status answered => ?_⟩
    cases raw with
    | error e => cases answered
    | ok _ =>
      simp only [Application.answer,free] at answered
      cases answered
      rfl
  refine Contract.outline_bind (Contract.outline_perform stable_breaks asks)
    (fun status w _ known => ⟨known.1,fun same => ?_⟩) (fun _ _ _ known => ⟨known.1,nofun⟩)
  cases free : w.removing u with
  | true => rfl
  | false =>
    have none := known.2 free status rfl
    subst none
    cases same

theorem outline_relationBroken : (contract app).Outline app.system u (onRelationBroken app.relation)
    ((duties app).starts u .relationBroken) ((duties app).ends u .relationBroken) := by
  have failed {w : World} {e : Exn} (holds : Breaks u w) : (duties app).ends u .relationBroken (.error e) w :=
    fun _ => ⟨holds,nofun⟩
  refine Contract.outline_seq outline_getRemovingFlag (fun w _ begun => ⟨begun.2 rfl,begun.1⟩) (fun removing => ?_)
    (fun _ _ _ known => failed known.1)
  refine Contract.outline_ite _ (fun yes w _ known _ => ⟨known.1,fun _ => .inl (known.2 (by rw [yes]))⟩) (fun _ => ?_)
  refine Contract.outline_seq (Contract.outline_perform stable_breaks takes_isLeader) (fun w _ known => known.1)
    (fun leads => ?_) (fun _ _ _ known => failed known.1)
  refine Contract.outline_ite _ (fun yes => ?_) (fun no w _ known _ => ⟨known.1,fun _ => .inr ?_⟩)
  · subst yes
    refine Contract.outline_seq outline_relationUsername (fun w _ known => ⟨⟨known.1,known.2 true rfl⟩,trivial⟩)
      (fun username => ?_) (fun _ _ _ known => failed known.1.1)
    refine Contract.outline_pre (M := fun w => username = app.username ∧ Deletes u w ∧ True)
      (Contract.outline_assuming fun same => ?_) (fun w _ known => ⟨known.2 username rfl,known.1,trivial⟩)
    subst same
    refine Contract.outline_tryElse outline_deleteUsers ?_ ?_ (fun e _ w _ known => failed known.1.1)
    · -- a RuntimeError is caught, but none is raised
      rintro e caught w _ ⟨-,calm,-⟩
      have calm : (!e.isRuntimeError) = true := calm
      rw [caught] at calm
      cases calm
    · rintro _ w _ ⟨⟨breaks,checked,-⟩,-,revoked⟩ _
      exact ⟨breaks,fun _ => .inr ⟨checked,.inr (revoked _ rfl)⟩⟩
  · obtain ⟨checked,deleting⟩ := known.2 leads rfl
    exact ⟨checked,.inl (by rw [deleting]; simpa using no)⟩

theorem same_removing {w : World} {v : UnitId} (other : v ≠ u) :
    Same v w { w with removing := update w.removing u true } := ⟨update_of_ne other ..,rfl,rfl,rfl,rfl⟩

/-- A unit that is not responsible may be marked as being removed. -/
theorem inv_removing {w : World} (inv : Inv app w) (other : (app.revoked w || w.leader != some u) = true) :
    Inv app { w with removing := update w.removing u true } := by
  refine inv_own inv rfl rfl rfl (fun v different => same_removing different) (fun leads _ _ => .inl ?_)
    (fun handled => ⟨(inv.handled u handled).1,.inr (update_self ..)⟩)
  simpa [leads] using other

/-- What another hook does leaves the leader responsible. -/
theorem takes_departed (c : Call) :
    (contract app).Takes app.system u c (fun w => w.breaking u = false) (fun _ w => w.breaking u = false) := by
  have deletion (c : Call) (other : c ≠ .isLeader) (keep : UserInfo → Bool)
      (deletes : ∀ w, Application.change w u c = { w with users := w.users.filter keep }) :
      (contract app).Takes app.system u c (fun w => w.breaking u = false) (fun _ w => w.breaking u = false) :=
    takes_delete other deletes (fun _ _ holds _ => ⟨holds,holds⟩) (fun _ _ holds => holds)
  by_cases calm : plain c = true
  · exact takes_plain calm (fun _ _ _ _ holds _ => holds)
  · unfold plain at calm
    split at calm
    · refine takes_of fun w raw happened inv holds _ => ?_
      have unchanged (r : Except Exn Bool) : Application.effect w u .isLeader r happened = w := by
        cases r <;> simp [Application.effect,Application.change,holds]
      rw [unchanged]
      exact ⟨inv,⟨shrinks_refl w,fun v _ => same_refl v w⟩,holds⟩
    · refine takes_of fun w raw happened inv holds allowed => ?_
      have other : (app.revoked w || w.leader != some u) = true := allowed
      have inv' := inv_removing inv other
      cases raw with
      | ok a => exact ⟨inv',⟨fun _ _ member => member,fun v other => same_removing other⟩,holds⟩
      | error e =>
        cases happened with
        | true => exact ⟨inv',⟨fun _ _ member => member,fun v other => same_removing other⟩,holds⟩
        | false => exact ⟨inv,⟨shrinks_refl w,fun v _ => same_refl v w⟩,holds⟩
    · exact deletion _ nofun _ (fun _ => rfl)
    · exact deletion _ nofun _ (fun _ => rfl)
    · exact absurd rfl calm

theorem outline_relationDeparted (charm : Charm) (unit : String) :
    (contract app).Outline app.system u (onRelationDeparted charm app.relation unit)
      ((duties app).starts u (.relationDeparted unit)) ((duties app).ends u (.relationDeparted unit)) := by
  have stable : (contract app).Stable u (fun w => w.breaking u = false) :=
    stable_of fun w w' _ same holds => same.2.2.1.trans holds
  have kept := Contract.outline_frame stable (fun c _ => takes_departed c)
    (avoids_of_never (onRelationDeparted charm app.relation unit))
  exact Contract.outline_post (Contract.outline_pre kept fun w _ begun => begun.1)
    (fun _ _ _ _ departed => by cases departed)

theorem begins (w : World) (u : UnitId) (job : Job) (w' : World) (inv : Inv app w) (begun : w.begin_ u job = some w') :
    Inv app w' ∧ (contract app).guarantee u w w' ∧ (duties app).starts u job w' := by
  cases job with
  | relationBroken =>
    simp only [World.begin_] at begun
    split at begun
    · cases begun
    · rename_i free
      cases begun
      obtain ⟨remains,unhandled⟩ : w.gone u = false ∧ w.handled u = false := by simpa using free
      have same (v : UnitId) (other : v ≠ u) : Same v w { w with
          breaking := update w.breaking u true, checked := update w.checked u false,
          deleting := update w.deleting u false } :=
        ⟨rfl,rfl,update_of_ne other ..,update_of_ne other ..,update_of_ne other ..⟩
      refine ⟨inv_own inv rfl rfl rfl same (fun _ free _ => .inr ⟨free,.inl (update_self ..)⟩) (fun handled => ?_),
        ⟨fun _ _ member => member,same⟩,by simp,fun _ => unhandled⟩
      rw [show w.handled u = true from handled] at unhandled
      cases unhandled
  | relationDeparted unit =>
    simp only [World.begin_] at begun
    split at begun
    · cases begun
    · cases begun
      exact ⟨⟨inv.responsible,inv.handled⟩,⟨fun _ _ member => member,fun v other =>
        ⟨rfl,rfl,update_of_ne other ..,rfl,rfl⟩⟩,by simp,nofun⟩

theorem finishes (w : World) (u : UnitId) (job : Job) (r : Except Exn Unit) (inv : Inv app w)
    (owed : (duties app).ends u job r w) :
    Inv app (w.finish u job r) ∧ (contract app).guarantee u w (w.finish u job r) := by
  cases job with
  | relationDeparted unit => exact ⟨inv,shrinks_refl w,fun v _ => same_refl v w⟩
  | relationBroken =>
    obtain ⟨⟨unhandled,-⟩,ended⟩ := owed rfl
    cases r with
    | ok a =>
      have same (v : UnitId) (other : v ≠ u) : Same v w (w.finish u .relationBroken (.ok a)) :=
        ⟨rfl,update_of_ne other ..,rfl,rfl,update_of_ne other ..⟩
      refine ⟨inv_own inv rfl rfl rfl same (fun _ free may => .inl ?_) (fun _ => ?_),fun _ _ member => member,same⟩
      · rcases ended ⟨a,rfl⟩ with removing | ⟨checked,idle | revoked⟩
        · rw [free] at removing
          cases removing
        · rw [checked,idle] at may
          cases may with
          | inl no => cases no
          | inr no => cases no
        · exact revoked
      · exact ⟨update_self ..,(ended ⟨a,rfl⟩).symm.imp And.left id⟩
    | error e =>
      have same (v : UnitId) (other : v ≠ u) : Same v w (w.finish u .relationBroken (.error e)) :=
        ⟨rfl,rfl,rfl,update_of_ne other ..,update_of_ne other ..⟩
      refine ⟨inv_own inv rfl rfl rfl same (fun _ free _ => .inr ⟨free,.inl (update_self ..)⟩) (fun handled => ?_),
        fun _ _ member => member,same⟩
      rw [show w.handled u = true from handled] at unhandled
      cases unhandled

theorem acts (w : World) (a : Act) (inv : Inv app w) (allowed : (dutiful app).act w a = true) :
    Inv app (app.act w a) ∧ (contract app).environment w (app.act w a) := by
  cases a with
  | elect leader => exact ⟨⟨allowed,inv.handled⟩,fun _ _ member => member,fun _ => ⟨rfl,rfl,rfl,rfl,rfl⟩⟩
  | leave v => exact ⟨⟨allowed,inv.handled⟩,fun _ _ member => member,fun _ => ⟨rfl,rfl,rfl,rfl,rfl⟩⟩
  | create user =>
    by_cases present : w.users.any (fun creator => creator.account == app.account) = true
    · have created : app.act w (.create user) = { w with users := w.users ++ [user] } := if_pos present
      rw [created]
      refine ⟨⟨?_,inv.handled⟩,fun deposed => ?_,fun _ => ⟨rfl,rfl,rfl,rfl,rfl⟩⟩
      · rw [← created]
        exact allowed
      · obtain ⟨creator,member,named⟩ := List.any_eq_true.mp present
        exact absurd (beq_iff_eq.mp named) (deposed creator member)
    · have unchanged : app.act w (.create user) = w := if_neg present
      rw [unchanged]
      exact ⟨inv,shrinks_refl w,fun v => same_refl v w⟩

theorem fulfils : (contract app).Fulfils app.system (duties app) where
  begins := begins
  finishes := finishes
  acts := acts
  jobs u job := by
    cases job with
    | relationBroken => exact outline_relationBroken
    | relationDeparted unit => exact outline_relationDeparted (app.charm u) unit
  lasts u job r := by
    refine stable_of fun w w' shrinks same owed broken => ?_
    obtain ⟨removing,handled,breaking,checked,deleting⟩ := same
    obtain ⟨own,ended⟩ := owed broken
    rw [removing,handled,breaking,checked,deleting]
    exact ⟨own,fun returned => (ended returned).imp id (And.imp id (Or.imp id (revoked_shrinks shrinks)))⟩

end

/-- From every world in which the leader is responsible and no unit has handled
    relation-broken, in every order of hooks, departures and elections whose steps meet
    the condition. -/
theorem revokes_of_dutiful (app : Application) (w : World) (labels : List (Label UnitId Job Call Reply Exn Act))
    (fresh : ∀ u, w.handled u = false) (begun : app.responsible w = true)
    (allowed : app.system.allAllowed (dutiful app) (idle w) labels = true) :
    Revokes app (app.system.run (idle w) labels) := by
  have inv : Inv app w := by
    refine ⟨begun,fun u handled => ?_⟩
    rw [fresh u] at handled
    cases handled
  have bound := Contract.bound_run (@fulfils app) (Contract.bound_idle inv) labels allowed
  intro everyone
  rcases responsible_iff.mp bound.1.responsible with revoked | ⟨l,-,unit,remains,free,may⟩
  · exact revoked
  · have handled := (everyone l unit).resolve_left (by rw [remains]; nofun)
    obtain ⟨idle,checked | removed⟩ := bound.1.handled l handled
    · rcases may with unchecked | deletes
      · rw [checked] at unchecked
        cases unchecked
      · rw [idle] at deletes
        cases deletes
    · rw [removed] at free
      cases free

/-- Two units; the first one is the leader. -/
def pair : Application := ⟨[0,1],fun u => ⟨.vm,"mysql",u,"cluster",""⟩,7,"99200344-b67b-4e9b-8e7b-1c1d1e1f2021"⟩

/-- The user of the relation, and one that its client has created. -/
def related : World where
  users := [⟨"relation-7_99200344b67b4e9","%",[]⟩,
    ⟨"mysql_router1_gwa0oy6xnp8l","%",[("created_by_user","relation-7_99200344b67b4e9")]⟩]
  leader := some 0
  removing _ := false
  gone _ := false
  handled _ := false
  breaking _ := false
  checked _ := false
  deleting _ := false

/-- Every call succeeds. -/
def replies : (c : Call) → Except Exn (Reply c)
  | .clusterSetStatus _ => .ok ⟨"cluster",[("cluster",⟨"OK",some "10.0.0.1:3306"⟩)]⟩
  | _ => .ok default

/-- Both units handle relation-broken. -/
def brokenRun (reply : (c : Call) → Except Exn (Reply c)) : List (Label UnitId Job Call Reply Exn Act) :=
  Label.whole 0 .relationBroken reply 7 ++ Label.whole 1 .relationBroken replies 2

theorem revokes_brokenRun :
    (∀ u ∈ pair.units, (pair.system.run (idle related) (brokenRun replies)).world.handled u = true) ∧
      Revokes pair (pair.system.run (idle related) (brokenRun replies)) :=
  ⟨by decide +kernel,
    revokes_of_dutiful pair related (brokenRun replies) (fun _ => rfl) (by decide +kernel) (by decide +kernel)⟩

/-- The search for the users that the client has created fails. -/
def failedSearch : (c : Call) → Except Exn (Reply c)
  | .searchUsers _ _ => .error ⟨.executionError,"Lost connection to MySQL server"⟩
  | c => replies c

/-- The failure is logged, no unit runs the hook again, and the user that the client
    has created keeps its access. -/
theorem failedSearch_keeps :
    ¬ ∀ (app : Application) (w : World) (labels : List (Label UnitId Job Call Reply Exn Act)),
      (∀ u, w.handled u = false) → app.responsible w = true → Revokes app (app.system.run (idle w) labels) := by
  intro always
  have everyone : ∀ u ∈ pair.units, (pair.system.run (idle related) (brokenRun failedSearch)).world.gone u = true ∨
      (pair.system.run (idle related) (brokenRun failedSearch)).world.handled u = true := by decide +kernel
  have kept : pair.revoked (pair.system.run (idle related) (brokenRun failedSearch)).world = false := by decide +kernel
  have revoked := always pair related (brokenRun failedSearch) (fun _ => rfl) (by decide +kernel) everyone
  rw [kept] at revoked
  cases revoked

end MysqlOperators.Revocation
