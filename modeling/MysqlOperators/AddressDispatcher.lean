import MysqlOperators.External
import MysqlOperators.Scripted

/-!
The service that watches the address of the machine. Every turn of its loop resolves the
address and dispatches an event when it is another one than in the turn before.
-/
namespace MysqlOperators.AddressDispatcher
open MysqlOperators.Program MysqlOperators.Program.Prog MysqlOperators.Scripted
open MysqlOperators.External (Exn)

/-! ### Sequences of probes -/

section
variable {α : Type} (probe : Nat → Option α)

/-- The last one that was resolved before. -/
def lastBefore : Nat → Option α
  | 0 => none
  | i+1 => (probe i).or (lastBefore i)

/-- What is seen with a default in the place of failures. -/
def seen (default : α) (i : Nat) : α := (probe i).getD default

/-- Failures are seen as what was resolved around them. -/
def Masked (default : α) : Prop :=
  ∀ i, probe i = none → (∀ b, lastBefore probe i = some b → b = default) ∧
    (lastBefore probe i = none → ∀ k a, i < k → lastBefore probe k = none → probe k = some a → a = default)

theorem lastBefore_resolved {i : Nat} {a : α} (resolved : probe i = some a) : lastBefore probe (i+1) = some a := by
  simp [lastBefore,resolved]

theorem lastBefore_failed {i : Nat} (failed : probe i = none) : lastBefore probe (i+1) = lastBefore probe i := by
  simp [lastBefore,failed]

/-- Before the first that is resolved, all have failed. -/
theorem failed_of_lastBefore {i k : Nat} (none_ : lastBefore probe k = none) (earlier : i < k) : probe i = none := by
  induction k with
  | zero => omega
  | succ k ih =>
    obtain ⟨failed,before⟩ : probe k = none ∧ lastBefore probe k = none := by simpa [lastBefore] using none_
    rcases Nat.lt_succ_iff_lt_or_eq.mp earlier with lower | rfl
    · exact ih before lower
    · exact failed

/-- Since what was resolved last, it is what is seen. -/
theorem seen_of_masked {default : α} (masked : Masked probe default) {i : Nat} {b : α}
    (last : lastBefore probe (i+1) = some b) : seen probe default i = b := by
  cases resolved : probe i with
  | some a =>
    rw [lastBefore_resolved probe resolved,Option.some.injEq] at last
    simp [seen,resolved,last]
  | none =>
    rw [lastBefore_failed probe resolved] at last
    simp [seen,resolved,(masked i resolved).1 b last]

variable [DecidableEq α]

/-- What is resolved differs from the last one before it. -/
def changes (i : Nat) : Bool :=
  match probe i,lastBefore probe i with
  | some a,some b => decide (a ≠ b)
  | _,_ => false

/-- What is seen differs from what was seen in the turn before. -/
def differs (default : α) : Nat → Bool
  | 0 => false
  | i+1 => decide (seen probe default (i+1) ≠ seen probe default i)

theorem not_changes_of_failed {i : Nat} (failed : probe i = none) : changes probe i = false := by
  simp [changes,failed]

theorem not_changes_of_first {i : Nat} (first : lastBefore probe i = none) : changes probe i = false := by
  cases resolved : probe i <;> simp [changes,first,resolved]

theorem seen_of_unchanged {default : α} (same : ∀ i, differs probe default i = changes probe i) {i : Nat}
    (unchanged : changes probe (i+1) = false) : seen probe default (i+1) = seen probe default i := by
  have equal := same (i+1)
  rw [unchanged] at equal
  simpa [differs] using equal

/-- If no turn is wrong about a change, what was resolved last is what is seen. -/
theorem seen_of_same {default : α} (same : ∀ i, differs probe default i = changes probe i) {i : Nat} {b : α}
    (last : lastBefore probe (i+1) = some b) : seen probe default i = b := by
  induction i with
  | zero =>
    have resolved : probe 0 = some b := by simpa [lastBefore] using last
    simp [seen,resolved]
  | succ i ih =>
    cases resolved : probe (i+1) with
    | some a =>
      rw [lastBefore_resolved probe resolved,Option.some.injEq] at last
      simp [seen,resolved,last]
    | none =>
      rw [lastBefore_failed probe resolved] at last
      rw [seen_of_unchanged probe same (not_changes_of_failed probe resolved)]
      exact ih last

/-- A default in the place of failures is right about every change exactly when it masks
    them. -/
theorem differs_eq_changes_iff (default : α) :
    (∀ i, differs probe default i = changes probe i) ↔ Masked probe default := by
  constructor
  · intro same i failed
    refine ⟨fun b last => ?_,fun first k a later none_ resolved => ?_⟩
    · rw [← lastBefore_failed probe failed] at last
      have equal := seen_of_same probe same last
      simpa [seen,failed] using equal.symm
    · obtain ⟨m,rfl⟩ : ∃ m, k = m + 1 := ⟨k - 1,by omega⟩
      have equal := seen_of_unchanged probe same (not_changes_of_first probe none_)
      have failed' : probe m = none := failed_of_lastBefore probe none_ (Nat.lt_succ_self m)
      simpa [seen,resolved,failed'] using equal
  · intro masked i
    cases i with
    | zero => exact (not_changes_of_first probe rfl).symm
    | succ i =>
      cases resolved : probe (i+1) with
      | none =>
        have before : seen probe default i = default := by
          cases earlier : probe i with
          | none => simp [seen,earlier]
          | some b =>
            have last := lastBefore_resolved probe earlier
            simp [seen,earlier,(masked (i+1) resolved).1 b last]
        rw [not_changes_of_failed probe resolved,differs,before]
        simp [seen,resolved]
      | some a =>
        cases last : lastBefore probe (i+1) with
        | none =>
          have failed := failed_of_lastBefore probe last (Nat.lt_succ_self i)
          have first : lastBefore probe i = none := by rw [← lastBefore_failed probe failed,last]
          have masks := (masked i failed).2 first (i+1) a (Nat.lt_succ_self i) last resolved
          rw [not_changes_of_first probe last,differs]
          simp [seen,resolved,failed,masks]
        | some b =>
          have before := seen_of_masked probe masked last
          rw [differs,before]
          simp [changes,resolved,last,seen]

end

/-! ### The service -/

/-- A resolved address is never empty. -/
structure Address where
  text : String
  there : text ≠ ""
deriving DecidableEq, Repr

def localhost : Address := ⟨"127.0.0.1",by decide⟩

/-- What the service leaves to others: a socket, its connection with the address that it
    gets, a process, time. -/
inductive Call where
  | openSocket
  | connect (host : String) (port : Nat)
  | runProcess (args : List String)
  | sleep (seconds : Nat)
deriving DecidableEq, Repr

@[reducible] def Reply : Call → Type
  | .connect _ _ => Address
  | .openSocket | .runProcess _ | .sleep _ => Unit

abbrev Service := Prog Call Reply Exn

@[reducible] def ask (c : Call) : Service (Reply c) := perform c

/-- `_dispatch_event`. A process that fails raises, because of `check=True`. -/
abbrev dispatchCall (operatorUnit operatorPath : String) : Call :=
  .runProcess ["/usr/bin/juju-exec","-u",operatorUnit,"JUJU_DISPATCH_PATH=hooks/address_changed",
    operatorPath ++ "/dispatch"]

def dispatchEvent (operatorUnit operatorPath : String) : Service Unit := ask (dispatchCall operatorUnit operatorPath)

/-- The connection whose own address is asked for. -/
abbrev probeCall : Call := .connect "10.10.10.10" 1

def resolveLocalAddress : Service Address := do
  ask .openSocket
  (ask probeCall).tryExcept Exn.isException fun _ => pure localhost

/-- A turn of the loop, with the previous address before and after it. -/
def turn (operatorUnit operatorPath : String) (previous : Option Address) : Service (Option Address) := do
  let address ← resolveLocalAddress
  match previous with
  | none => pure ()
  | some before => if before ≠ address then dispatchEvent operatorUnit operatorPath else pure ()
  ask (.sleep 30)
  pure (some address)

/-- `main`, as far as the end of a number of turns. -/
def turns (operatorUnit operatorPath : String) : Nat → Service (Option Address)
  | 0 => pure none
  | n+1 => do
    let previous ← turns operatorUnit operatorPath n
    turn operatorUnit operatorPath previous

/-- Nothing but the calls counts. -/
def rules : Rules Unit Call Reply Exn := ⟨fun _ _ r => r,fun _ _ _ _ => ()⟩

section
variable (script : Script Call Reply Exn) (operatorUnit operatorPath : String)

/-- The calls of the first turns. -/
def log (n : Nat) : List Call := (play rules script (turns operatorUnit operatorPath n) ()).2.log

/-- The address that a turn resolves. -/
def probe (i : Nat) : Option Address := (script.reply probeCall i).toOption

/-- An event is dispatched in a turn. -/
def Dispatched (i : Nat) : Prop :=
  (log script operatorUnit operatorPath i).count (dispatchCall operatorUnit operatorPath) <
    (log script operatorUnit operatorPath (i+1)).count (dispatchCall operatorUnit operatorPath)

/-- A turn probes, and it dispatches an event if and only if it resolves a change. -/
structure Right (i : Nat) : Prop where
  probes : (log script operatorUnit operatorPath (i+1)).count probeCall = i + 1
  dispatches : Dispatched script operatorUnit operatorPath i ↔ changes (probe script) i = true

/-- No call but a probe fails, a probe that fails is masked, and no dispatch of a change
    fails. -/
structure Smooth : Prop where
  opens : ∀ i, script.reply .openSocket i = .ok ()
  caught : ∀ i e, script.reply probeCall i = .error e → e.isException = true
  sleeps : ∀ i, script.reply (.sleep 30) i = .ok ()
  masked : Masked (probe script) localhost
  dispatches : ∀ i, changes (probe script) i = true → script.reply (dispatchCall operatorUnit operatorPath)
    ((List.range i).countP (changes (probe script))) = .ok ()

/-! ### A turn -/

/-- The previous address before a turn. -/
def previous : Nat → Option Address
  | 0 => none
  | i+1 => some (seen (probe script) localhost i)

/-- The calls of a turn. -/
def turnCalls (i : Nat) : List Call :=
  [.openSocket,probeCall] ++
    (if differs (probe script) localhost i then [dispatchCall operatorUnit operatorPath] else []) ++ [.sleep 30]

/-- Nothing ends the loop in a turn before which a number of events has been dispatched. -/
structure Returns (i d : Nat) : Prop where
  opens : script.reply .openSocket i = .ok ()
  caught : ∀ e, script.reply probeCall i = .error e → e.isException = true
  dispatches : differs (probe script) localhost i = true →
    script.reply (dispatchCall operatorUnit operatorPath) d = .ok ()
  sleeps : script.reply (.sleep 30) i = .ok ()

theorem run_resolve {i : Nat} {log : List Call} (opened : log.count .openSocket = i) (probed : log.count probeCall = i)
    (a : Address) (s : Scene Unit Call) :
    run (respond rules script) resolveLocalAddress ⟨(),log⟩ = (.ok a,s) ↔
      script.reply .openSocket i = .ok () ∧ (∀ e, script.reply probeCall i = .error e → e.isException = true) ∧
        a = seen (probe script) localhost i ∧ s = ⟨(),log ++ [.openSocket,probeCall]⟩ := by
  rcases opens : script.reply .openSocket i with e | _
  · simp [resolveLocalAddress,ask,run_bind,respond,rules,opened,opens]
  rcases resolved : script.reply probeCall i with e | address
  · by_cases caught : e.isException = true
    · simp [resolveLocalAddress,ask,run_bind,run_tryExcept,respond,rules,opened,probed,opens,resolved,caught,seen,probe,
        Except.toOption]
      exact and_congr eq_comm eq_comm
    · simp [resolveLocalAddress,ask,run_bind,run_tryExcept,respond,rules,opened,probed,opens,resolved,caught]
  · simp [resolveLocalAddress,ask,run_bind,run_tryExcept,respond,rules,opened,probed,opens,resolved,seen,probe,
      Except.toOption]
    exact and_congr eq_comm eq_comm

/-- What is left of a turn once the address is there. -/
def reacting (before : Option Address) (address : Address) : Service (Option Address) := do
  match before with
  | none => pure ()
  | some before => if before ≠ address then dispatchEvent operatorUnit operatorPath else pure ()
  ask (.sleep 30)
  pure (some address)

/-- An event is dispatched when the address differs from the previous one. -/
theorem run_reacting {i d : Nat} {log : List Call} (dispatched : log.count (dispatchCall operatorUnit operatorPath) = d)
    (slept : log.count (.sleep 30) = i) (p : Option Address) (s : Scene Unit Call) :
    run (respond rules script) (reacting operatorUnit operatorPath (previous script i) (seen (probe script) localhost i))
        ⟨(),log⟩ = (.ok p,s) ↔
      (differs (probe script) localhost i = true → script.reply (dispatchCall operatorUnit operatorPath) d = .ok ()) ∧
        script.reply (.sleep 30) i = .ok () ∧ p = previous script (i+1) ∧
        s = ⟨(),log ++ (if differs (probe script) localhost i then [dispatchCall operatorUnit operatorPath] else []) ++
          [.sleep 30]⟩ := by
  have same : differs (probe script) localhost i = true ↔
      ∃ before, previous script i = some before ∧ before ≠ seen (probe script) localhost i := by
    cases i with
    | zero => simp [differs,previous]
    | succ i => simp [differs,previous,ne_comm]
  have next : previous script (i+1) = some (seen (probe script) localhost i) := rfl
  by_cases change : differs (probe script) localhost i = true
  · obtain ⟨before,there,other⟩ := same.mp change
    rcases dispatches : script.reply (dispatchCall operatorUnit operatorPath) d with e | _
    · simp [reacting,there,other,dispatchEvent,run_bind,respond,rules,dispatched,dispatches,change,-bind_pure_comp]
    · rcases sleeps : script.reply (.sleep 30) i with e | _
      · simp [reacting,there,other,dispatchEvent,run_bind,respond,rules,dispatched,slept,dispatches,sleeps,
          -bind_pure_comp]
      · simp [reacting,there,other,dispatchEvent,run_bind,respond,rules,dispatched,slept,dispatches,sleeps,change,next,
          -bind_pure_comp]
        exact and_congr eq_comm eq_comm
  · have passes : reacting operatorUnit operatorPath (previous script i) (seen (probe script) localhost i) =
        (do ask (.sleep 30); pure (some (seen (probe script) localhost i))) := by
      cases there : previous script i with
      | none => rfl
      | some before =>
        have equal : before = seen (probe script) localhost i := by
          by_contra other
          exact change (same.mpr ⟨before,there,other⟩)
        simp [reacting,equal]
    rcases sleeps : script.reply (.sleep 30) i with e | _
    · simp [passes,run_bind,respond,rules,slept,sleeps,-bind_pure_comp]
    · simp [passes,run_bind,respond,rules,slept,sleeps,change,next,
          -bind_pure_comp]
      exact and_congr eq_comm eq_comm

theorem run_turn {i d : Nat} (log : List Call) (opened : log.count .openSocket = i) (probed : log.count probeCall = i)
    (dispatched : log.count (dispatchCall operatorUnit operatorPath) = d) (slept : log.count (.sleep 30) = i)
    (p : Option Address) (s : Scene Unit Call) :
    run (respond rules script) (turn operatorUnit operatorPath (previous script i)) ⟨(),log⟩ = (.ok p,s) ↔
      Returns script operatorUnit operatorPath i d ∧ p = previous script (i+1) ∧
        s = ⟨(),log ++ turnCalls script operatorUnit operatorPath i⟩ := by
  have parts : turn operatorUnit operatorPath (previous script i) =
      resolveLocalAddress >>= reacting operatorUnit operatorPath (previous script i) := rfl
  rw [parts,run_bind_eq_ok_iff]
  constructor
  · rintro ⟨a,v,resolves,reacts⟩
    obtain ⟨opens,caught,rfl,rfl⟩ := (run_resolve script opened probed a v).mp resolves
    obtain ⟨dispatches,sleeps,next,rfl⟩ := (run_reacting script operatorUnit operatorPath
      (i := i) (d := d) (by simp [dispatched]) (by simp [slept]) p s).mp reacts
    exact ⟨⟨opens,caught,dispatches,sleeps⟩,next,by simp [turnCalls]⟩
  · rintro ⟨returns,rfl,rfl⟩
    refine ⟨_,_,(run_resolve script opened probed _ _).mpr ⟨returns.opens,returns.caught,rfl,rfl⟩,?_⟩
    refine (run_reacting script operatorUnit operatorPath (i := i) (d := d) (by simp [dispatched]) (by simp [slept]) _ _).mpr
      ⟨returns.dispatches,returns.sleeps,rfl,?_⟩
    simp [turnCalls]

/-! ### Many turns -/

/-- The events that have been dispatched before a turn. -/
def dispatched (i : Nat) : Nat := (List.range i).countP (differs (probe script) localhost)

def callsOf (n : Nat) : List Call := (List.range n).flatMap (turnCalls script operatorUnit operatorPath)

theorem callsOf_succ (n : Nat) : callsOf script operatorUnit operatorPath (n+1) =
    callsOf script operatorUnit operatorPath n ++ turnCalls script operatorUnit operatorPath n := by
  simp [callsOf,List.range_succ]

/-- A call that each turn makes once has been made as often as there were turns. -/
theorem count_callsOf {c : Call} (once : ∀ i, (turnCalls script operatorUnit operatorPath i).count c = 1) (n : Nat) :
    (callsOf script operatorUnit operatorPath n).count c = n := by
  induction n with
  | zero => rfl
  | succ n ih => rw [callsOf_succ,List.count_append,ih,once]

theorem count_dispatches (n : Nat) :
    (callsOf script operatorUnit operatorPath n).count (dispatchCall operatorUnit operatorPath) = dispatched script n := by
  induction n with
  | zero => rfl
  | succ n ih =>
    rw [callsOf_succ,List.count_append,ih,dispatched,dispatched,List.range_succ,List.countP_append]
    congr 1
    cases change : differs (probe script) localhost n <;> simp [turnCalls,change]

theorem once_openSocket (i : Nat) : (turnCalls script operatorUnit operatorPath i).count .openSocket = 1 := by
  unfold turnCalls
  split <;> simp

theorem once_probe (i : Nat) : (turnCalls script operatorUnit operatorPath i).count probeCall = 1 := by
  unfold turnCalls
  split <;> simp

theorem once_sleep (i : Nat) : (turnCalls script operatorUnit operatorPath i).count (.sleep 30) = 1 := by
  unfold turnCalls
  split <;> simp

/-- The loop gets through its first turns exactly when nothing ends it in one of them. -/
theorem run_turns (n : Nat) (p : Option Address) (s : Scene Unit Call) :
    run (respond rules script) (turns operatorUnit operatorPath n) ⟨(),[]⟩ = (.ok p,s) ↔
      (∀ i < n, Returns script operatorUnit operatorPath i (dispatched script i)) ∧ p = previous script n ∧
        s = ⟨(),callsOf script operatorUnit operatorPath n⟩ := by
  induction n generalizing p s with
  | zero =>
    simp [turns,previous,callsOf]
    exact and_congr eq_comm eq_comm
  | succ n ih =>
    rw [turns,run_bind_eq_ok_iff,callsOf_succ]
    have last := run_turn script operatorUnit operatorPath (callsOf script operatorUnit operatorPath n)
      (count_callsOf script operatorUnit operatorPath (once_openSocket script operatorUnit operatorPath) n)
      (count_callsOf script operatorUnit operatorPath (once_probe script operatorUnit operatorPath) n)
      (count_dispatches script operatorUnit operatorPath n)
      (count_callsOf script operatorUnit operatorPath (once_sleep script operatorUnit operatorPath) n) p s
    constructor
    · rintro ⟨q,v,firsts,ends⟩
      obtain ⟨returns,rfl,rfl⟩ := (ih q v).mp firsts
      obtain ⟨returned,rest⟩ := last.mp ends
      refine ⟨fun i below => ?_,rest⟩
      rcases Nat.lt_succ_iff_lt_or_eq.mp below with earlier | rfl
      · exact returns i earlier
      · exact returned
    · rintro ⟨returns,rest⟩
      exact ⟨_,_,(ih _ _).mpr ⟨fun i below => returns i (Nat.lt_succ_of_lt below),rfl,rfl⟩,
        last.mpr ⟨returns n (Nat.lt_succ_self n),rest⟩⟩

/-- If no turn ends the loop, the log has the calls of the turns. -/
theorem log_of_returns (returns : ∀ i, Returns script operatorUnit operatorPath i (dispatched script i)) (n : Nat) :
    log script operatorUnit operatorPath n = callsOf script operatorUnit operatorPath n := by
  have ran := (run_turns script operatorUnit operatorPath n _ _).mpr ⟨fun i _ => returns i,rfl,rfl⟩
  rw [log,play,ran]

theorem dispatched_iff (returns : ∀ i, Returns script operatorUnit operatorPath i (dispatched script i)) (i : Nat) :
    Dispatched script operatorUnit operatorPath i ↔ differs (probe script) localhost i = true := by
  rw [Dispatched,log_of_returns _ _ _ returns,log_of_returns _ _ _ returns,count_dispatches,count_dispatches,dispatched,
    dispatched,List.range_succ,List.countP_append]
  cases change : differs (probe script) localhost i <;> simp [change]

/-- A loop that probes in every turn has not ended. -/
theorem returns_of_right (right : ∀ i, Right script operatorUnit operatorPath i) (i : Nat) :
    Returns script operatorUnit operatorPath i (dispatched script i) := by
  rcases ran : run (respond rules script) (turns operatorUnit operatorPath (i+1)) ⟨(),[]⟩ with ⟨e | p,s⟩
  · have stopped : log script operatorUnit operatorPath (i+2) = log script operatorUnit operatorPath (i+1) := by
      rw [log,log,play,play,turns,run_bind,ran]
    have before := (right i).probes
    have after := (right (i+1)).probes
    rw [stopped] at after
    omega
  · exact ((run_turns script operatorUnit operatorPath (i+1) p s).mp ran).1 i (Nat.lt_succ_self i)

/-- Every turn of the loop is right exactly when its calls are smooth. -/
theorem right_iff_smooth : (∀ i, Right script operatorUnit operatorPath i) ↔ Smooth script operatorUnit operatorPath := by
  constructor
  · intro right
    have returns := returns_of_right script operatorUnit operatorPath right
    have same : ∀ i, differs (probe script) localhost i = changes (probe script) i := fun i =>
      Bool.eq_iff_iff.mpr ((dispatched_iff script operatorUnit operatorPath returns i).symm.trans (right i).dispatches)
    refine ⟨fun i => (returns i).opens,fun i => (returns i).caught,fun i => (returns i).sleeps,
      (differs_eq_changes_iff _ _).mp same,fun i change => ?_⟩
    have dispatches := (returns i).dispatches ((same i).trans change)
    rwa [dispatched,funext same] at dispatches
  · intro smooth i
    have same := (differs_eq_changes_iff _ _).mpr smooth.masked
    have returns (i : Nat) : Returns script operatorUnit operatorPath i (dispatched script i) := by
      refine ⟨smooth.opens i,smooth.caught i,fun change => ?_,smooth.sleeps i⟩
      rw [dispatched,funext same]
      exact smooth.dispatches i ((same i).symm.trans change)
    refine ⟨?_,?_⟩
    · rw [log_of_returns _ _ _ returns,count_callsOf _ _ _ (once_probe script operatorUnit operatorPath)]
    · rw [dispatched_iff _ _ _ returns,same]

end

/-- An address, a failure to resolve, and the same address again. -/
def flapping : Script Call Reply Exn where
  reply c n := match c with
    | .connect _ _ =>
      if n = 1 then .error ⟨.osError,"Network is unreachable"⟩ else .ok ⟨"10.0.0.10",by decide⟩
    | .openSocket => .ok ()
    | .runProcess _ => .ok ()
    | .sleep _ => .ok ()
  takesEffect _ _ := false

/-- The failure is dispatched as a change to the local address. -/
theorem failure_dispatched : ¬ ∀ (script : Script Call Reply Exn) (operatorUnit operatorPath : String) (i : Nat),
    Right script operatorUnit operatorPath i := by
  intro always
  have dispatches := (always flapping "mysql/0" "/var/lib/juju/agents/unit-mysql-0/charm" 1).dispatches
  exact absurd (dispatches.mp (by unfold Dispatched; decide +kernel)) (by decide +kernel)

end MysqlOperators.AddressDispatcher
