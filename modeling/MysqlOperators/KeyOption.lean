import MysqlOperators.Tls
import MysqlOperators.Scripted

/-!
The options with private keys and the URIs in the application databag. The unit that
leads handles config-changed and relation-broken events of both kinds of certificates in
any order, with failures of any calls; a hook that fails leaves the databag as it was.
-/
namespace MysqlOperators.KeyOption
open MysqlOperators.Program MysqlOperators.Program.Prog MysqlOperators.External MysqlOperators.Helpers
open MysqlOperators.Quiet MysqlOperators.Scripted MysqlOperators.KeyRotation MysqlOperators.Tls
open Function (update)

/-- The application databag. -/
abbrev Databag := String → Option String

/-- The databag with the writes of the hook, and the value of the option. -/
structure Hooked where
  bag : Databag
  option : Option String

namespace Hooked

def answer (w : Hooked) : (c : Call) → Except Exn (Reply c) → Except Exn (Reply c)
  | .configValue _, .ok _ => .ok w.option
  | .appData key, .ok _ => .ok (w.bag key)
  | .isLeader, .ok _ => .ok true
  | _, r => r

/-- An entry that is set to an empty text is removed. -/
def effect (w : Hooked) : (c : Call) → Except Exn (Reply c) → Bool → Hooked
  | .setAppData key text, .ok _, _ => { w with bag := update w.bag key (if text = "" then none else some text) }
  | .deleteAppData key, .ok _, _ => { w with bag := update w.bag key none }
  | _, _, _ => w

end Hooked

def rules : Rules Hooked Call Reply Exn := ⟨Hooked.answer,Hooked.effect⟩

inductive Event where
  | configChanged (value : Option String)
  | relationBroken
deriving DecidableEq, Repr

/-- The value that the option has, as far as the handler asks for it. -/
def Event.option : Event → Option String
  | configChanged value => value
  | relationBroken => none

def Event.handler (tls : TLSType) (charm : Charm) : Event → Hook Unit
  | configChanged _ =>
    match tls with
    | .client => TLSClientEventHandler.onConfigChanged
    | .peer => TLSPeerEventHandler.onConfigChanged
  | relationBroken => TLSEventHandler.onRelationBroken tls charm

/-- An event of one kind of certificates, and how the calls of its handling end. -/
structure Step where
  tls : TLSType
  event : Event
  script : Script Call Reply Exn

def Step.ended (charm : Charm) (bag : Databag) (step : Step) : Except Exn Unit × Scene Hooked Call :=
  play rules step.script (step.event.handler step.tls charm) ⟨bag,step.event.option⟩

/-- The databag after the hook. -/
def Step.next (charm : Charm) (bag : Databag) (step : Step) : Databag :=
  match (step.ended charm bag).1 with
  | .ok _ => (step.ended charm bag).2.world.bag
  | .error _ => bag

/-- The databag after the steps. -/
def after (charm : Charm) (bag : Databag) (steps : List Step) : Databag := steps.foldl (Step.next charm) bag

/-- The event is handled without deferring. -/
def Step.Handled (charm : Charm) (bag : Databag) (step : Step) : Prop :=
  (step.ended charm bag).1 = .ok () ∧ .defer ∉ (step.ended charm bag).2.log

/-- No refresh is emitted, and the databag stays as it is. -/
def Step.Quiet (charm : Charm) (bag : Databag) (step : Step) : Prop :=
  .emitRefresh step.tls.value ∉ (step.ended charm bag).2.log ∧ step.next charm bag = bag

def uriKey (tls : TLSType) : String := PeerStateApp.buildSecretUriKey tls.value

/-! ### One config-changed event -/

theorem handler_configChanged (tls : TLSType) (charm : Charm) (value : Option String) :
    (Event.configChanged value).handler tls charm = rotate tls := by
  cases tls <;> rfl

section
variable (script : Script Call Reply Exn)

/-- What `rotate` does with an option that has changed. -/
def rotating (tls : TLSType) (newUri : Option String) : Hook Unit := do
  if ← ask .refreshing then ask .defer
  else do
    ask (.emitRefresh tls.value)
    if ← isLeader then PeerStateApp.setPrivateKeyUri tls.value newUri else pure ()

/-- The option and the entry are read and compared, unless a call fails before. -/
theorem rotate_cases (tls : TLSType) (bag : Databag) (value : Option String) :
    (∃ e log, .emitRefresh tls.value ∉ log ∧ play rules script (rotate tls) ⟨bag,value⟩ = (.error e,⟨⟨bag,value⟩,log⟩)) ∨
    play rules script (rotate tls) ⟨bag,value⟩ =
      run (respond rules script) (if value = nonEmpty (bag (uriKey tls)) then pure () else rotating tls value)
        ⟨⟨bag,value⟩,[.configValue tls.option,.appData (uriKey tls)]⟩ := by
  rw [play,rotate,run_bind,run_perform]
  rcases option : script.reply (.configValue tls.option) 0 with e | _
  · refine .inl ⟨e,[.configValue tls.option],by simp,?_⟩
    simp [respond,rules,Hooked.answer,Hooked.effect,option]
  have read : respond rules script ⟨⟨bag,value⟩,[]⟩ (.configValue tls.option) =
      (.ok value,⟨⟨bag,value⟩,[.configValue tls.option]⟩) := by
    simp [respond,rules,Hooked.answer,Hooked.effect,option]
  rw [read]
  simp only
  rw [PeerStateApp.getPrivateKeyUri,bind_assoc,run_bind,run_perform]
  rcases entry : script.reply (.appData (uriKey tls)) 0 with e | _
  · refine .inl ⟨e,[.configValue tls.option,.appData (uriKey tls)],by simp,?_⟩
    have failed : respond rules script ⟨⟨bag,value⟩,[.configValue tls.option]⟩ (.appData (uriKey tls)) =
        (.error e,⟨⟨bag,value⟩,[.configValue tls.option,.appData (uriKey tls)]⟩) := by
      simp [respond,rules,Hooked.answer,Hooked.effect,entry]
    rw [← uriKey,failed]
  · right
    have found : respond rules script ⟨⟨bag,value⟩,[.configValue tls.option]⟩ (.appData (uriKey tls)) =
        (.ok (bag (uriKey tls)),⟨⟨bag,value⟩,[.configValue tls.option,.appData (uriKey tls)]⟩) := by
      simp [respond,rules,Hooked.answer,Hooked.effect,entry]
    rw [← uriKey,found]
    rfl

/-- The entry of an option that is stored. -/
def stored (value : Option String) : Option String :=
  if PeerStateApp.uriText value = "" then none else some (PeerStateApp.uriText value)

/-- Without deferring, a leader stores the option. -/
theorem rotating_stores (tls : TLSType) (bag : Databag) (value : Option String) {s : Scene Hooked Call}
    (ran : run (respond rules script) (rotating tls value)
      ⟨⟨bag,value⟩,[.configValue tls.option,.appData (uriKey tls)]⟩ = (.ok (),s))
    (handled : .defer ∉ s.log) : s.world.bag = update bag (uriKey tls) (stored value) := by
  rcases refreshing : script.reply .refreshing 0 with e | (_ | _)
  · simp [rotating,run_bind,respond,rules,Hooked.answer,refreshing] at ran
  · rcases emits : script.reply (.emitRefresh tls.value) 0 with e | done
    · simp [rotating,run_bind,respond,rules,Hooked.answer,refreshing,emits] at ran
    rcases leads : script.reply .isLeader 0 with e | leader
    · simp [rotating,run_bind,respond,rules,Hooked.answer,Hooked.effect,isLeader,refreshing,emits,leads] at ran
    rcases set_ : script.reply (.setAppData (PeerStateApp.buildSecretUriKey tls.value) (PeerStateApp.uriText value)) 0 with
      e | done'
    · simp [rotating,run_bind,respond,rules,Hooked.answer,Hooked.effect,isLeader,PeerStateApp.setPrivateKeyUri,refreshing,
        emits,leads,set_] at ran
    · simp [rotating,run_bind,respond,rules,Hooked.answer,Hooked.effect,isLeader,PeerStateApp.setPrivateKeyUri,refreshing,
        emits,leads,set_] at ran
      obtain ⟨_,rfl⟩ := ran
      rfl
  · simp [rotating,run_bind,respond,rules,Hooked.answer,refreshing] at ran
    obtain ⟨_,rfl⟩ := ran
    simp at handled

/-- Every call succeeds, and the charm is not being refreshed. -/
def smooth : Script Call Reply Exn := ⟨fun _ _ => .ok default,fun _ _ => false⟩

theorem rotating_emits (tls : TLSType) (bag : Databag) (value : Option String) (log : List Call) :
    .emitRefresh tls.value ∈ (run (respond rules smooth) (rotating tls value) ⟨⟨bag,value⟩,log⟩).2.log := by
  have going : respond rules smooth ⟨⟨bag,value⟩,log⟩ .refreshing = (.ok false,⟨⟨bag,value⟩,log ++ [.refreshing]⟩) := rfl
  rw [rotating,run_bind,run_perform,going]
  simp only [Bool.false_eq_true,if_false]
  exact run_log_bind rules smooth _ _ _ (by simp [respond])

end

/-! ### Other events -/

theorem uriKey_injective {tls other : TLSType} (same : uriKey other = uriKey tls) : other = tls := by
  cases tls <;> cases other <;> first | rfl | exact absurd same (by decide)

/-- An event of the other certificates, or the end of the relation. -/
def Step.Apart (tls : TLSType) (step : Step) : Prop := step.tls = tls → step.event = .relationBroken

theorem apart_avoids {tls : TLSType} (charm : Charm) {step : Step} (apart : step.Apart tls) :
    Avoids (fun c => ∃ text, c = .setAppData (uriKey tls) text) (step.event.handler step.tls charm) := by
  have quiet {α : Type} {p : Hook α} (quiet : Avoids Loud p) :
      Avoids (fun c => ∃ text, c = .setAppData (uriKey tls) text) p :=
    avoids_mono (fun _ ⟨_,same⟩ => by rw [same]; rfl) quiet
  obtain ⟨tls',event,script⟩ := step
  cases event with
  | configChanged value =>
    have other : uriKey tls' ≠ uriKey tls := fun same => nomatch apart (uriKey_injective same)
    rw [handler_configChanged]
    refine avoids_bind (quiet (quiet_ask rfl)) fun newUri => ?_
    refine avoids_bind (quiet (avoids_bind (quiet_ask rfl) fun _ => trivial)) fun oldUri => ?_
    refine avoids_ite _ (fun _ => trivial) fun _ => avoids_bind (quiet (quiet_ask rfl)) fun _ => ?_
    refine avoids_ite _ (fun _ => avoids_ask (by simp)) fun _ => avoids_bind (avoids_ask (by simp)) fun _ => ?_
    refine avoids_bind (quiet (quiet_ask rfl)) fun _ => avoids_ite _ (fun _ => ?_) fun _ => trivial
    exact avoids_ask fun ⟨_,same⟩ => other (by injection same)
  | relationBroken =>
    exact avoids_onRelationBroken (fun _ ⟨_,same⟩ => by rw [same]; rfl)
      (fun c disabling ⟨_,same⟩ => by simp [same,disables] at disabling) tls' charm

theorem effect_entry (w : Hooked) (tls : TLSType) {c : Call} (other : ¬ ∃ text, c = .setAppData (uriKey tls) text)
    (r : Except Exn (Reply c)) (happened : Bool) {entry : Option String}
    (before : w.bag (uriKey tls) = entry ∨ w.bag (uriKey tls) = none) :
    (w.effect c r happened).bag (uriKey tls) = entry ∨ (w.effect c r happened).bag (uriKey tls) = none := by
  unfold Hooked.effect
  split
  · rename_i _ key text _
    have apart : uriKey tls ≠ key := fun same => other ⟨text,by rw [same]⟩
    simpa [Function.update_of_ne apart] using before
  · rename_i _ key _
    by_cases same : uriKey tls = key
    · exact .inr (by simp [same])
    · simpa [Function.update_of_ne same] using before
  · exact before

theorem apart_next (charm : Charm) (tls : TLSType) (bag : Databag) {step : Step} (apart : step.Apart tls) :
    step.next charm bag (uriKey tls) = bag (uriKey tls) ∨ step.next charm bag (uriKey tls) = none := by
  have kept : (step.ended charm bag).2.world.bag (uriKey tls) = bag (uriKey tls) ∨
      (step.ended charm bag).2.world.bag (uriKey tls) = none :=
    run_frame (P := fun s => s.world.bag (uriKey tls) = bag (uriKey tls) ∨ s.world.bag (uriKey tls) = none)
      (fun s c r happened other => effect_entry s.world tls other r happened) (apart_avoids charm apart)
      ⟨⟨bag,step.event.option⟩,[]⟩ (.inl rfl)
  have either : step.next charm bag = (step.ended charm bag).2.world.bag ∨ step.next charm bag = bag := by
    unfold Step.next
    split
    · exact .inl rfl
    · exact .inr rfl
  rcases either with same | same
  · rw [same]
    exact kept
  · rw [same]
    exact .inl rfl

/-- Until the next configuration, the entry stays or is removed. -/
theorem apart_after (charm : Charm) (tls : TLSType) (bag : Databag) {between : List Step}
    (apart : ∀ step ∈ between, step.Apart tls) :
    after charm bag between (uriKey tls) = bag (uriKey tls) ∨ after charm bag between (uriKey tls) = none := by
  induction between generalizing bag with
  | nil => exact .inl rfl
  | cons step rest ih =>
    obtain ⟨first,rests⟩ := List.forall_mem_cons.mp apart
    rcases ih (step.next charm bag) rests with stays | removed
    · rcases apart_next charm tls bag first with kept | gone
      · exact .inl (stays.trans kept)
      · exact .inr (stays.trans gone)
    · exact .inr removed

/-! ### The option and the databag -/

theorem ended_configChanged (charm : Charm) (tls : TLSType) (bag : Databag) (value : Option String)
    (script : Script Call Reply Exn) : Step.ended charm bag ⟨tls,.configChanged value,script⟩ =
      play rules script (rotate tls) ⟨bag,value⟩ := by
  rw [Step.ended,handler_configChanged]
  rfl

/-- A config-changed event is left alone, whatever happens, exactly when the entry reads
    as the option. -/
theorem quiet_iff (charm : Charm) (tls : TLSType) (bag : Databag) (value : Option String) :
    (∀ script, Step.Quiet charm bag ⟨tls,.configChanged value,script⟩) ↔ value = nonEmpty (bag (uriKey tls)) := by
  constructor
  · intro quiet
    by_contra changed
    have emitted := (quiet smooth).1
    have reads : play rules smooth (rotate tls) ⟨bag,value⟩ =
      run (respond rules smooth) (if value = nonEmpty (bag (uriKey tls)) then pure () else rotating tls value)
        ⟨⟨bag,value⟩,[.configValue tls.option,.appData (uriKey tls)]⟩ := rfl
    rw [ended_configChanged,reads,if_neg changed] at emitted
    exact emitted (rotating_emits tls bag value _)
  · intro same script
    rw [Step.Quiet,Step.next,ended_configChanged]
    rcases rotate_cases script tls bag value with ⟨e,log,unemitted,ran⟩ | ran
    · rw [ran]
      exact ⟨unemitted,rfl⟩
    · rw [ran,if_pos same]
      exact ⟨by simp,rfl⟩

/-- Once it is handled, the entry reads as the option or is what is stored for it. -/
theorem handled_reads (charm : Charm) (tls : TLSType) (bag : Databag) (value : Option String)
    (script : Script Call Reply Exn) (handled : Step.Handled charm bag ⟨tls,.configChanged value,script⟩) :
    value = nonEmpty (Step.next charm bag ⟨tls,.configChanged value,script⟩ (uriKey tls)) ∨
      Step.next charm bag ⟨tls,.configChanged value,script⟩ (uriKey tls) = stored value := by
  rw [Step.Handled,ended_configChanged] at handled
  rw [Step.next,ended_configChanged]
  obtain ⟨returned,undeferred⟩ := handled
  rcases rotate_cases script tls bag value with ⟨e,log,_,ran⟩ | ran
  · rw [ran] at returned
    cases returned
  · rw [ran] at returned undeferred ⊢
    by_cases same : value = nonEmpty (bag (uriKey tls))
    · rw [if_pos same]
      exact .inl same
    · rw [if_neg same] at returned undeferred ⊢
      rcases ended : run (respond rules script) (rotating tls value)
        ⟨⟨bag,value⟩,[.configValue tls.option,.appData (uriKey tls)]⟩ with ⟨r,s⟩
      rw [ended] at returned undeferred
      obtain rfl : r = .ok () := returned
      right
      simp only [rotating_stores script tls bag value ended undeferred,Function.update_self]

theorem nonEmpty_ne_empty (entry : Option String) : nonEmpty entry ≠ some "" := by
  unfold nonEmpty
  split
  · nofun
  · rename_i other
    exact other

/-- What is stored reads as the option exactly when that is a text and still there, or
    nothing is there and it is unset. -/
theorem reads_iff {value first last : Option String} (kept : last = first ∨ last = none)
    (handled : value = nonEmpty first ∨ first = stored value) :
    value = nonEmpty last ↔ value ≠ some "" ∧ (value = none ↔ nonEmpty last = none) := by
  cases value with
  | none => simp [eq_comm]
  | some text =>
    by_cases empty : text = ""
    · subst empty
      simp [(nonEmpty_ne_empty last).symm]
    have reads : nonEmpty first = some text := by
      rcases handled with same | rfl
      · exact same.symm
      · simp [stored,PeerStateApp.uriText,nonEmpty,empty]
    rcases kept with rfl | rfl
    · simp [reads,empty]
    · simp [nonEmpty]

/-- After any history, an option that has been handled is left alone at a further event
    exactly when it is set and not empty, and the databag still has an entry for it, or it
    is unset and the databag has none. -/
theorem idempotent_iff (charm : Charm) (tls : TLSType) (bag : Databag) (history between : List Step)
    (value : Option String) (script : Script Call Reply Exn)
    (handled : Step.Handled charm (after charm bag history) ⟨tls,.configChanged value,script⟩)
    (apart : ∀ step ∈ between, step.Apart tls) :
    (∀ further, Step.Quiet charm (after charm bag (history ++ ⟨tls,.configChanged value,script⟩ :: between))
        ⟨tls,.configChanged value,further⟩) ↔
      value ≠ some "" ∧ (value = none ↔ nonEmpty
        (after charm bag (history ++ ⟨tls,.configChanged value,script⟩ :: between) (uriKey tls)) = none) := by
  have split : after charm bag (history ++ ⟨tls,.configChanged value,script⟩ :: between) =
      after charm (Step.next charm (after charm bag history) ⟨tls,.configChanged value,script⟩) between := by
    rw [after,List.foldl_append]
    rfl
  rw [quiet_iff,split]
  exact reads_iff (apart_after charm tls _ apart) (handled_reads charm tls _ value script handled)

/-- The option is stored and read back. -/
theorem idempotent_uri : Step.Quiet ⟨.vm,"mysql",0,"cluster-set","10.0.0.10"⟩
    (after ⟨.vm,"mysql",0,"cluster-set","10.0.0.10"⟩ (fun _ => none)
      ([⟨.client,.relationBroken,smooth⟩] ++
        [⟨.client,.configChanged (some "secret:d3u6mbftng4c7b2k1a0g"),smooth⟩]))
    ⟨.client,.configChanged (some "secret:d3u6mbftng4c7b2k1a0g"),smooth⟩ :=
  (idempotent_iff ⟨.vm,"mysql",0,"cluster-set","10.0.0.10"⟩ .client (fun _ => none)
    [⟨.client,.relationBroken,smooth⟩] [] (some "secret:d3u6mbftng4c7b2k1a0g") smooth
    ⟨by decide +kernel,by decide +kernel⟩ nofun).mpr (by decide +kernel) smooth

/-- The option is unset: its text "None" is stored, and every further event is taken for
    a change. -/
theorem unset_refreshes : ¬ ∀ (charm : Charm) (tls : TLSType) (bag : Databag) (history between : List Step)
    (value : Option String) (script : Script Call Reply Exn),
    Step.Handled charm (after charm bag history) ⟨tls,.configChanged value,script⟩ →
      (∀ step ∈ between, step.Apart tls) → ∀ further,
        Step.Quiet charm (after charm bag (history ++ ⟨tls,.configChanged value,script⟩ :: between))
          ⟨tls,.configChanged value,further⟩ := by
  intro always
  have quiet := always ⟨.vm,"mysql",0,"cluster-set","10.0.0.10"⟩ .client (fun _ => none)
    [⟨.client,.configChanged (some "secret:d3u6mbftng4c7b2k1a0g"),smooth⟩] [] none smooth
    ⟨by decide +kernel,by decide +kernel⟩ nofun smooth
  exact absurd quiet.1 (by decide +kernel)

end MysqlOperators.KeyOption
