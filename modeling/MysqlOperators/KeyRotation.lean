import MysqlOperators.Interleaving
import MysqlOperators.Helpers
import Mathlib.Logic.Function.Basic

/-!
The rotation of TLS private keys. Every unit compares the option with the entry of the
application databag, which the leader overwrites while it handles the same event; its
write reaches the others when its hook has ended.
-/
namespace MysqlOperators.KeyRotation
open MysqlOperators.Program MysqlOperators.Program.Prog MysqlOperators.External MysqlOperators.Helpers
open MysqlOperators.Interleaving Contract.Local
open Function (update update_self update_of_ne)

/-! ### The handlers -/

inductive TLSType where
  | client
  | peer
deriving DecidableEq, Repr

namespace TLSType

def value : TLSType → String
  | client => "client"
  | peer => "peer"

/-- The option of the charm that holds the URI. -/
def option : TLSType → String
  | client => "tls_client_private_key"
  | peer => "tls_peer_private_key"

end TLSType

namespace PeerStateApp

def buildSecretUriKey (keyPrefix : String) : String := keyPrefix ++ "-private-key"

def getPrivateKeyUri (keyPrefix : String) : Hook (Option String) := do
  let secretUri ← ask (.appData (buildSecretUriKey keyPrefix))
  pure (nonEmpty secretUri)

/-- `str(secret_uri)`. -/
def uriText : Option String → String
  | none => "None"
  | some uri => uri

def setPrivateKeyUri (keyPrefix : String) (secretUri : Option String) : Hook Unit :=
  ask (.setAppData (buildSecretUriKey keyPrefix) (uriText secretUri))

end PeerStateApp

/-- What both handlers of config-changed do, with the option of the one. -/
def rotate (tls : TLSType) : Hook Unit := do
  let newUri ← ask (.configValue tls.option)
  let oldUri ← PeerStateApp.getPrivateKeyUri tls.value
  if newUri = oldUri then pure ()
  else if ← ask .refreshing then ask .defer
  else do
    ask (.emitRefresh tls.value)
    if ← isLeader then PeerStateApp.setPrivateKeyUri tls.value newUri else pure ()

def TLSClientEventHandler.onConfigChanged : Hook Unit := rotate .client
def TLSPeerEventHandler.onConfigChanged : Hook Unit := rotate .peer

/-! ### The application -/

/-- The key that has changed, and its new URI. -/
structure Change where
  tls : TLSType
  uri : Option String

/-- Whether a unit has emitted its refresh event, whether the new URI was in the databag
    when it looked there, and whether it has handled the event. -/
structure Progress where
  emitted : Bool
  late : Bool
  handled : Bool
deriving DecidableEq, Repr

/-- The entry of the databag, what each unit has written in a hook that has not ended,
    and whether a hook that wrote the entry has ended. -/
structure World where
  leader : Option UnitId
  entry : Option String
  staged : UnitId → Option String
  published : Bool
  hook : UnitId → Progress

inductive Act where
  | elect (leader : Option UnitId)
deriving DecidableEq, Repr

namespace Change
variable (change : Change)

/-- Which handler observes the event. -/
def handler : Hook Unit :=
  match change.tls with
  | .client => TLSClientEventHandler.onConfigChanged
  | .peer => TLSPeerEventHandler.onConfigChanged

/-- No unit is refreshing. -/
def answer (w : World) (u : UnitId) : (c : Call) → Except Exn (Reply c) → Except Exn (Reply c)
  | .configValue _, .ok _ => .ok change.uri
  | .appData _, .ok _ => .ok ((w.staged u).or w.entry)
  | .isLeader, .ok _ => .ok (w.leader == some u)
  | .refreshing, .ok _ => .ok false
  | _, r => r

end Change

namespace World

def effect (w : World) (u : UnitId) (c : Call) (r : Except Exn (Reply c)) (_ : Bool) : World :=
  match c,r with
  | .appData _, .ok _ => { w with hook := update w.hook u { w.hook u with late := w.published } }
  | .emitRefresh _, .ok _ => { w with hook := update w.hook u { w.hook u with emitted := true } }
  | .setAppData _ text, .ok _ => { w with staged := update w.staged u (some text) }
  | _, _ => w

/-- An event that has not been handled is emitted, once more if the hook has failed. -/
def begin_ (w : World) (u : UnitId) (_ : Unit) : Option World :=
  if (w.hook u).handled then none
  else some { w with
    staged := update w.staged u none
    hook := update w.hook u ⟨false,false,false⟩ }

def handle (w : World) (u : UnitId) : World := { w with hook := update w.hook u { w.hook u with handled := true } }

/-- The writes of a hook that has succeeded reach the databag, those of a failed one are
    discarded. A hook fails with writes of a unit that does not lead any more. -/
def finish (w : World) (u : UnitId) (_ : Unit) : Except Exn Unit → World
  | .ok _ =>
    match w.staged u with
    | none => w.handle u
    | some text =>
      if w.leader = some u then { w.handle u with entry := some text, published := true } else w
  | .error _ => w

def act (w : World) : Act → World
  | .elect leader => { w with leader := leader }

end World

def Change.system (change : Change) : System UnitId Unit Call Reply Exn Unit World Act where
  program _ _ := change.handler
  answer := change.answer
  effect := World.effect
  begin_ := World.begin_
  finish := World.finish
  act := World.act

/-- Before the event, with some entry in the databag. -/
def before (leader : Option UnitId) (entry : Option String) : World :=
  ⟨leader,entry,fun _ => none,false,fun _ => ⟨false,false,false⟩⟩

/-- Every unit that has handled the event has emitted its refresh event. -/
def Rotated (s : State UnitId Unit Call Reply Exn Unit World) : Prop :=
  ∀ u, (s.world.hook u).handled = true → (s.world.hook u).emitted = true

/-- Every unit that has handled the event looked at the databag before the hook that writes
    the new URI had ended, unless the option is unset, and the databag did not hold the
    URI already. -/
def Timely (uri entry : Option String) (s : State UnitId Unit Call Reply Exn Unit World) : Prop :=
  ∀ u, (s.world.hook u).handled = true →
    if (s.world.hook u).late then nonEmpty uri = none else nonEmpty entry ≠ uri

/-! ### What a unit knows -/

section
variable (change : Change) (entry : Option String)

/-- The entry that a unit finds. -/
def found (late : Bool) : Option String := if late then some (PeerStateApp.uriText change.uri) else entry

/-- A unit emits just if it finds another URI than the new one. -/
def Right (p : Progress) : Prop := p.emitted = true ↔ change.uri ≠ nonEmpty (found change entry p.late)

structure Inv (w : World) : Prop where
  databag : w.entry = found change entry w.published
  staged : ∀ u text, w.staged u = some text → text = PeerStateApp.uriText change.uri
  handled : ∀ u, (w.hook u).handled = true → Right change entry (w.hook u)

structure Own where
  hook : Progress
  staged : Option String

def own (u : UnitId) (w : World) : Own := ⟨w.hook u,w.staged u⟩

def contract : Contract UnitId Call Reply Exn World Act where
  condition := System.unrestricted
  inv := Inv change entry
  guarantee u w w' := ∀ v, v ≠ u → own v w' = own v w
  environment w w' := ∀ v, own v w' = own v w
  safe _ _ _ := True

def duties : Contract.Duties UnitId Unit Exn Unit World where
  starts u _ w := own u w = ⟨⟨false,false,false⟩,none⟩
  ends u _ r w := (w.hook u).handled = false ∧ (r = .ok () → Right change entry (w.hook u))

variable {change entry} {u : UnitId} {P : Own → Prop}

variable (change entry u) in
/-- The knowledge of a unit, for the rules. -/
def view : Contract.Local (contract change entry) change.system u Own :=
  owning change.system (own u) (by
    rintro w w' _ _ (environment | ⟨v,other,guarantee⟩)
    · exact environment u
    · exact guarantee u (Ne.symm other))

theorem own_effect (w : World) (c : Call) (r : Except Exn (Reply c)) (happened : Bool) {v : UnitId} (other : v ≠ u) :
    own v (w.effect u c r happened) = own v w := by
  unfold World.effect
  split <;> simp [own,update_of_ne other]

theorem inv_effect {w : World} {c : Call} (r : Except Exn (Reply c)) (happened : Bool) (inv : Inv change entry w)
    (running : (w.hook u).handled = false)
    (same : ∀ key text, c = .setAppData key text → text = PeerStateApp.uriText change.uri) :
    Inv change entry (w.effect u c r happened) := by
  have handled (p : Progress) (runs : p.handled = false) :
      ∀ v, (update w.hook u p v).handled = true → Right change entry (update w.hook u p v) := by
    intro v done
    by_cases own : v = u
    · subst own
      simp [runs] at done
    · rw [update_of_ne own] at done ⊢
      exact inv.handled v done
  unfold World.effect
  split
  · exact ⟨inv.databag,inv.staged,handled _ running⟩
  · exact ⟨inv.databag,inv.staged,handled _ running⟩
  · rename_i key text _
    refine ⟨inv.databag,fun v staged now => ?_,inv.handled⟩
    by_cases own : v = u
    · subst own
      obtain rfl : text = staged := by simpa using now
      exact same key text rfl
    · exact inv.staged v staged (by simpa [update_of_ne own] using now)
  · exact inv

theorem goes_call {c : Call} {Q : Except Exn (Reply c) → Own → Prop} (running : ∀ o, P o → o.hook.handled = false)
    (same : ∀ key text, c = .setAppData key text → text = PeerStateApp.uriText change.uri)
    (learns : ∀ w raw happened, Inv change entry w → P (own u w) →
      Q (change.answer w u c raw) (own u (w.effect u c (change.answer w u c raw) happened))) :
    (view change entry u).Goes (ask c) P Q :=
  goes_perform fun w inv known => ⟨trivial,fun raw happened _ =>
    ⟨inv_effect _ happened inv (running _ known) same,fun _ other => own_effect w c _ happened other,
      learns w raw happened inv known⟩⟩

/-! ### The handler -/

/-- A call that tells the unit nothing new. -/
def plain : Call → Bool
  | .appData _ | .emitRefresh _ | .setAppData _ _ => false
  | _ => true

theorem goes_plain {c : Call} (calm : plain c = true) (running : ∀ o, P o → o.hook.handled = false) :
    (view change entry u).Goes (ask c) P (fun r o => (∃ w raw, r = change.answer w u c raw) ∧ P o) := by
  refine goes_call running (fun key text same => by subst same; cases calm) fun w raw happened _ known => ?_
  have same : w.effect u c (change.answer w u c raw) happened = w := by
    unfold World.effect
    split <;> first | rfl | cases calm
  rw [same]
  exact ⟨⟨w,raw,rfl⟩,known⟩

variable (change entry) in
/-- The unit has looked and found `uri`, and has emitted its event or not. -/
def Looked (uri : Option String) (emitted : Bool) (o : Own) : Prop :=
  o.hook.handled = false ∧ o.hook.emitted = emitted ∧ uri = nonEmpty (found change entry o.hook.late)

theorem goes_newUri (tls : TLSType) : (view change entry u).Goes (ask (.configValue tls.option))
    (fun o => o = ⟨⟨false,false,false⟩,none⟩)
    (fun r o => (∀ uri, r = .ok uri → uri = change.uri) ∧ o = ⟨⟨false,false,false⟩,none⟩) := by
  refine goes_post (goes_plain rfl (by rintro _ rfl; rfl)) fun r o known => ⟨fun uri answered => ?_,known.2⟩
  obtain ⟨w,raw,rfl⟩ := known.1
  cases raw with
  | error e => cases answered
  | ok _ => exact (Except.ok.inj answered).symm

theorem goes_getPrivateKeyUri (keyPrefix : String) :
    (view change entry u).Goes (PeerStateApp.getPrivateKeyUri keyPrefix) (fun o => o = ⟨⟨false,false,false⟩,none⟩)
      (fun r o => o.hook.handled = false ∧ ∀ uri, r = .ok uri → Looked change entry uri false o) := by
  have asks : (view change entry u).Goes (ask (.appData (PeerStateApp.buildSecretUriKey keyPrefix)))
      (fun o => o = ⟨⟨false,false,false⟩,none⟩) (fun r o => o.hook.handled = false ∧
        ∀ text, r = .ok text → o.hook.emitted = false ∧ text = found change entry o.hook.late) := by
    refine goes_call (by rintro _ rfl; rfl) (fun _ _ => nofun) fun w raw happened inv known => ?_
    have hook : w.hook u = ⟨false,false,false⟩ := congrArg Own.hook known
    have staged : w.staged u = none := congrArg Own.staged known
    cases raw with
    | error e => exact ⟨congrArg Progress.handled hook,nofun⟩
    | ok _ =>
      simp only [Change.answer,staged,Option.none_or,World.effect,own,update_self,hook]
      exact ⟨trivial,fun text answered => ⟨trivial,(Except.ok.inj answered).symm.trans inv.databag⟩⟩
  refine goes_bind asks (fun text => ?_) (fun _ _ known => ⟨known.1,nofun⟩)
  refine goes_pure fun o known => ⟨known.1,fun uri same => ?_⟩
  obtain ⟨silent,found⟩ := known.2 text rfl
  cases same
  exact ⟨known.1,silent,by rw [found]⟩

theorem goes_setPrivateKeyUri (keyPrefix : String) {uri : Option String} :
    (view change entry u).Goes (PeerStateApp.setPrivateKeyUri keyPrefix change.uri) (Looked change entry uri true)
      (fun _ => Looked change entry uri true) := by
  refine goes_call (fun o known => known.1) (fun key text same => ?_) fun w raw happened _ known => ?_
  · cases same
    rfl
  · cases raw <;> exact known

theorem goes_rotate (tls : TLSType) : (view change entry u).Goes (rotate tls) (fun o => o = ⟨⟨false,false,false⟩,none⟩)
    (fun r o => o.hook.handled = false ∧ (r = .ok () → Right change entry o.hook)) := by
  refine goes_bind (goes_newUri tls) (fun newUri => goes_knowing fun given => ?_) (fun _ o known => ?_)
  · obtain rfl := given newUri rfl
    refine goes_bind (goes_getPrivateKeyUri _) (fun oldUri => ?_) (fun _ _ known => ⟨known.1,nofun⟩)
    refine goes_pre ?_ (fun o known => (known.2 oldUri rfl : Looked change entry oldUri false o))
    refine goes_ite _ (fun same => ?_) (fun differs => ?_)
    · refine goes_pure fun o looked => ⟨looked.1,fun _ => ?_⟩
      obtain ⟨_,silent,found⟩ := looked
      simp [Right,silent,same,← found]
    · have emits : (view change entry u).Goes (ask (.emitRefresh tls.value)) (Looked change entry oldUri false)
          (fun r o => o.hook.handled = false ∧ (r = .ok () → Looked change entry oldUri true o)) := by
        refine goes_call (fun o known => known.1) (fun _ _ => nofun) fun w raw happened _ known => ?_
        cases raw with
        | error e => exact ⟨known.1,nofun⟩
        | ok _ =>
          obtain ⟨open_,_,found⟩ := known
          refine ⟨?_,fun _ => ⟨?_,?_,?_⟩⟩
          · simpa [World.effect,own,Change.answer] using open_
          · simpa [World.effect,own,Change.answer] using open_
          · simp [World.effect,own,Change.answer]
          · simpa [World.effect,own,Change.answer] using found
      refine goes_bind (goes_plain rfl fun o known => known.1) (fun refreshing => goes_knowing fun calm => ?_)
        (fun _ _ known => ⟨known.2.1,nofun⟩)
      obtain rfl : refreshing = false := by
        obtain ⟨w,raw,same⟩ := calm
        cases raw <;> cases same
        rfl
      refine goes_bind emits (fun _ => ?_) (fun _ _ known => ⟨known.1,nofun⟩)
      refine goes_pre ?_ (fun o known => (known.2 rfl : Looked change entry oldUri true o))
      have done {o : Own} (looked : Looked change entry oldUri true o) : Right change entry o.hook := by
        obtain ⟨_,emitted,found⟩ := looked
        simp [Right,emitted,differs,← found]
      refine goes_bind (goes_plain rfl fun o known => known.1) (fun leads => ?_) (fun _ _ known => ⟨known.2.1,nofun⟩)
      refine goes_pre ?_ (fun o known => (known.2 : Looked change entry oldUri true o))
      refine goes_ite _ (fun _ => ?_) (fun _ => goes_pure fun o looked => ⟨looked.1,fun _ => done looked⟩)
      exact goes_post (goes_setPrivateKeyUri _) fun _ o looked => ⟨looked.1,fun _ => done looked⟩
  · rw [known.2]
    exact ⟨rfl,nofun⟩

theorem inv_begin {w w' : World} (inv : Inv change entry w) (begun : w.begin_ u () = some w') :
    Inv change entry w' ∧ (contract change entry).guarantee u w w' ∧ own u w' = ⟨⟨false,false,false⟩,none⟩ := by
  unfold World.begin_ at begun
  split at begun
  · cases begun
  · cases begun
    refine ⟨⟨inv.databag,fun v text staged => ?_,fun v handled => ?_⟩,fun v other => ?_,?_⟩
    · by_cases same : v = u
      · subst same
        simp at staged
      · exact inv.staged v text (by simpa [update_of_ne same] using staged)
    · by_cases same : v = u
      · subst same
        simp at handled
      · simp only [update_of_ne same] at handled ⊢
        exact inv.handled v handled
    · simp [own,update_of_ne other]
    · simp [own]

theorem inv_handle {w : World} (inv : Inv change entry w) (right : Right change entry (w.hook u))
    (entry' : Option String) (published : Bool) (databag : entry' = found change entry published) :
    Inv change entry { w.handle u with entry := entry', published := published } := by
  refine ⟨databag,inv.staged,fun v handled => ?_⟩
  by_cases same : v = u
  · subst same
    simp only [World.handle,update_self]
    exact right
  · simp only [World.handle,update_of_ne same] at handled ⊢
    exact inv.handled v handled

theorem fulfils : (contract change entry).Fulfils change.system (duties change entry) where
  begins w u job w' inv begun := inv_begin inv begun
  finishes w u job r inv owed := by
    have handles (v : UnitId) (other : v ≠ u) : own v (w.handle u) = own v w := by
      simp [own,World.handle,update_of_ne other]
    cases r with
    | error e => exact ⟨inv,fun _ _ => rfl⟩
    | ok _ =>
      have right := owed.2 rfl
      simp only [Change.system,World.finish]
      split
      · exact ⟨inv_handle inv right w.entry w.published inv.databag,handles⟩
      · rename_i text staged
        split
        · refine ⟨inv_handle inv right (some text) true ?_,handles⟩
          rw [inv.staged u text staged]
          rfl
        · exact ⟨inv,fun _ _ => rfl⟩
  acts w a inv _ := by
    cases a
    exact ⟨⟨inv.databag,inv.staged,inv.handled⟩,fun _ => rfl⟩
  jobs u job := by
    show (contract change entry).Outline change.system u change.handler _ _
    unfold Change.handler
    cases change.tls with
    | client => exact goes_rotate .client
    | peer => exact goes_rotate .peer
  lasts u job r :=
    (view change entry u).stable fun o => o.hook.handled = false ∧ (r = .ok () → Right change entry o.hook)

end

/-- What a unit that looked late finds differs from the new URI only if that is unset. -/
theorem nonEmpty_uriText (uri : Option String) :
    uri ≠ nonEmpty (some (PeerStateApp.uriText uri)) ↔ nonEmpty uri = none := by
  cases uri with
  | none => simp [PeerStateApp.uriText,nonEmpty]
  | some text =>
    by_cases empty : text = ""
    · subst empty
      simp [PeerStateApp.uriText,nonEmpty]
    · simp [PeerStateApp.uriText,nonEmpty,empty]

/-- For every change, any number of units and leaders and every order of the hooks, with
    failures of any calls. -/
theorem rotated_iff (change : Change) (leader : Option UnitId) (entry : Option String)
    (labels : List (Label UnitId Unit Call Reply Exn Act)) :
    Rotated (change.system.run (idle (before leader entry)) labels) ↔
      Timely change.uri entry (change.system.run (idle (before leader entry)) labels) := by
  have inv : Inv change entry (before leader entry) := ⟨rfl,fun _ _ => nofun,fun _ => nofun⟩
  have bound := Contract.bound_run (@fulfils change entry) (Contract.bound_idle inv) labels
    (change.system.allAllowed_unrestricted _ labels)
  generalize change.system.run (idle (before leader entry)) labels = s at bound
  refine forall_congr' fun u => imp_congr_right fun handled => ?_
  have right : (s.world.hook u).emitted = true ↔ change.uri ≠ nonEmpty (found change entry (s.world.hook u).late) :=
    bound.1.handled u handled
  rw [right]
  cases (s.world.hook u).late with
  | true => exact nonEmpty_uriText change.uri
  | false => exact ne_comm

/-- The first key of the clients, which the leader is the first to handle. -/
def firstKey : Change := ⟨.client,some "secret:d3u6mbftng4c7b2k1a0g"⟩

def leaderFirst : List (Label UnitId Unit Call Reply Exn Act) :=
  Label.whole 0 () (fun _ => .ok default) 6 ++ Label.whole 1 () (fun _ => .ok default) 6

/-- The second unit finds the new URI in the databag and keeps its certificate. -/
theorem leaderFirst_misses :
    ¬ ∀ (change : Change) (leader : Option UnitId) (uri : Option String)
      (labels : List (Label UnitId Unit Call Reply Exn Act)), uri ≠ change.uri →
        Rotated (change.system.run (idle (before leader uri)) labels) := by
  intro always
  have emitted := always firstKey (some 0) none leaderFirst nofun 1 (by decide +kernel)
  have missed : ((firstKey.system.run (idle (before (some 0) none)) leaderFirst).world.hook 1).emitted = false := by
    decide +kernel
  rw [missed] at emitted
  cases emitted

end MysqlOperators.KeyRotation
