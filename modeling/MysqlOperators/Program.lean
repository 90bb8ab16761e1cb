import Mathlib.Logic.Relation

/-!
Programs that act on the outside world only through calls. A call may answer with
a value or with an exception, and a program may raise an exception of its own, so
`try`, `else`, `finally` and context managers are operations on programs. What a
program means is given by a function that answers its calls (`run`), and what it
can never call is read off its text (`Avoids`).
-/
namespace MysqlOperators.Program

/-- A program with calls in `E`, answers in `R`, exceptions in `ε` and a result in `α`. -/
inductive Prog (E : Type) (R : E → Type) (ε α : Type) where
  | ret (a : α)
  | raise (e : ε)
  | call (c : E) (next : Except ε (R c) → Prog E R ε α)

variable {E : Type} {R : E → Type} {ε α β γ W V : Type}

namespace Prog

/-- Continue after the result of a program, or after the exception it ends with. -/
def handle : Prog E R ε α → (α → Prog E R ε β) → (ε → Prog E R ε β) → Prog E R ε β
  | ret a, onRet, _ => onRet a
  | raise e, _, onRaise => onRaise e
  | call c next, onRet, onRaise => call c (fun r => handle (next r) onRet onRaise)

instance : Monad (Prog E R ε) where
  pure := ret
  bind p f := p.handle f raise

/-- Make one call and raise the exception it answers with, if any. -/
def perform (c : E) : Prog E R ε (R c) :=
  call c fun
    | .ok a => ret a
    | .error e => raise e

/-- `try: body / except catches: handler / else: orElse`. -/
def tryElse (body : Prog E R ε α) (catches : ε → Bool) (handler : ε → Prog E R ε β)
    (orElse : α → Prog E R ε β) : Prog E R ε β :=
  body.handle orElse (fun e => if catches e then handler e else raise e)

/-- `try: body / except catches: handler`. -/
def tryExcept (body : Prog E R ε α) (catches : ε → Bool) (handler : ε → Prog E R ε α) : Prog E R ε α :=
  body.tryElse catches handler ret

/-- `try: body / finally: last`. An exception of `last` replaces the one of `body`. -/
def finallyDo (body : Prog E R ε α) (last : Prog E R ε Unit) : Prog E R ε α :=
  body.handle (fun a => last.handle (fun _ => ret a) raise) (fun e => last.handle (fun _ => raise e) raise)

/-- Repeat a program while it raises what is to be repeated, at most `attempts` times
    after the first one. -/
def retry (attempts : Nat) (again : ε → Bool) (body : Prog E R ε α) : Prog E R ε α :=
  match attempts with
  | 0 => body
  | n+1 => body.tryExcept again (fun _ => retry n again body)

/-- End with a result that is already known. -/
def ofExcept : Except ε α → Prog E R ε α
  | .ok a => ret a
  | .error e => raise e

/-- Make the calls of a list in order. -/
def steps : List E → Prog E R ε Unit
  | [] => pure ()
  | c :: rest => do
    let _ ← perform c
    steps rest

@[simp] theorem handle_ret (a : α) (f : α → Prog E R ε β) (g : ε → Prog E R ε β) : handle (ret a) f g = f a := rfl
@[simp] theorem handle_raise (e : ε) (f : α → Prog E R ε β) (g : ε → Prog E R ε β) :
    handle (raise e) f g = g e := rfl
@[simp] theorem handle_call (c : E) (next : Except ε (R c) → Prog E R ε α) (f : α → Prog E R ε β)
    (g : ε → Prog E R ε β) : handle (call c next) f g = call c (fun r => handle (next r) f g) := rfl
theorem pure_eq (a : α) : (pure a : Prog E R ε α) = ret a := rfl
theorem bind_eq (p : Prog E R ε α) (f : α → Prog E R ε β) : p >>= f = p.handle f raise := rfl

theorem handle_ret_raise (p : Prog E R ε α) : p.handle ret raise = p := by
  induction p with
  | ret a => rfl
  | raise e => rfl
  | call c next ih => simp only [handle_call,ih]

theorem handle_handle (p : Prog E R ε α) (f : α → Prog E R ε β) (g : ε → Prog E R ε β)
    (f' : β → Prog E R ε γ) (g' : ε → Prog E R ε γ) :
    (p.handle f g).handle f' g' = p.handle (fun a => (f a).handle f' g') (fun e => (g e).handle f' g') := by
  induction p with
  | ret a => rfl
  | raise e => rfl
  | call c next ih => simp only [handle_call,ih]

instance : LawfulMonad (Prog E R ε) :=
  LawfulMonad.mk' _ handle_ret_raise (fun _ _ => rfl) (fun p f g => handle_handle p f raise g raise)

end Prog

open Prog

/-! ### Running a program -/

/-- Run a program against a world that answers its calls. -/
def run (respond : W → (c : E) → Except ε (R c) × W) : Prog E R ε α → W → Except ε α × W
  | ret a, w => (.ok a,w)
  | raise e, w => (.error e,w)
  | call c next, w => run respond (next (respond w c).1) (respond w c).2

section
variable (respond : W → (c : E) → Except ε (R c) × W)

@[simp] theorem run_ret (a : α) (w : W) : run respond (ret a : Prog E R ε α) w = (.ok a,w) := rfl
@[simp] theorem run_raise (e : ε) (w : W) : run respond (raise e : Prog E R ε α) w = (.error e,w) := rfl
@[simp] theorem run_pure (a : α) (w : W) : run respond (pure a : Prog E R ε α) w = (.ok a,w) := rfl
theorem run_call (c : E) (next : Except ε (R c) → Prog E R ε α) (w : W) :
    run respond (call c next) w = run respond (next (respond w c).1) (respond w c).2 := rfl

@[simp] theorem run_perform (c : E) (w : W) : run respond (perform c) w = respond w c := by
  simp only [perform,run_call]
  rcases respond w c with ⟨_ | _,w'⟩ <;> rfl

@[simp] theorem run_ofExcept (r : Except ε α) (w : W) : run respond (ofExcept r : Prog E R ε α) w = (r,w) := by
  cases r <;> rfl

theorem run_handle (p : Prog E R ε α) (f : α → Prog E R ε β) (g : ε → Prog E R ε β) (w : W) :
    run respond (p.handle f g) w =
      match run respond p w with
      | (.ok a,w') => run respond (f a) w'
      | (.error e,w') => run respond (g e) w' := by
  induction p generalizing w with
  | ret a => rfl
  | raise e => rfl
  | call c next ih => simp only [handle_call,run_call,ih]

theorem run_bind (p : Prog E R ε α) (f : α → Prog E R ε β) (w : W) :
    run respond (p >>= f) w =
      match run respond p w with
      | (.ok a,w') => run respond (f a) w'
      | (.error e,w') => (.error e,w') := run_handle respond p f raise w

theorem run_bind_ok_iff (p : Prog E R ε α) (f : α → Prog E R ε β) (b : β) (w : W) :
    (run respond (p >>= f) w).1 = .ok b ↔
      ∃ a w', run respond p w = (.ok a,w') ∧ (run respond (f a) w').1 = .ok b := by
  rw [run_bind]
  rcases run respond p w with ⟨e | a,w'⟩ <;> simp [and_assoc]

/-- A program raises what its first part raises. -/
theorem run_bind_error {p : Prog E R ε α} {f : α → Prog E R ε β} {w : W} {e : ε}
    (raises : (run respond p w).1 = .error e) : (run respond (p >>= f) w).1 = .error e := by
  rw [run_bind]
  rcases ended : run respond p w with ⟨r,w'⟩
  rw [ended] at raises
  obtain rfl : r = .error e := raises
  rfl

/-- A program that returns has returned from its first part. -/
theorem run_bind_eq_ok {p : Prog E R ε α} {f : α → Prog E R ε β} {b : β} {w w' : W}
    (returns : run respond (p >>= f) w = (.ok b,w')) :
    ∃ a v, run respond p w = (.ok a,v) ∧ run respond (f a) v = (.ok b,w') := by
  rw [run_bind] at returns
  rcases ran : run respond p w with ⟨e | a,v⟩ <;> rw [ran] at returns
  · cases returns
  · exact ⟨a,v,rfl,returns⟩

theorem run_bind_eq_ok_iff {p : Prog E R ε α} {f : α → Prog E R ε β} {b : β} {w w' : W} :
    run respond (p >>= f) w = (.ok b,w') ↔ ∃ a v, run respond p w = (.ok a,v) ∧ run respond (f a) v = (.ok b,w') := by
  constructor
  · exact run_bind_eq_ok respond
  · rintro ⟨a,v,first,rest⟩
    rw [run_bind,first]
    exact rest

theorem run_tryElse (p : Prog E R ε α) (catches : ε → Bool) (handler : ε → Prog E R ε β) (orElse : α → Prog E R ε β)
    (w : W) : run respond (p.tryElse catches handler orElse) w =
      match run respond p w with
      | (.ok a,w') => run respond (orElse a) w'
      | (.error e,w') => if catches e then run respond (handler e) w' else (.error e,w') := by
  rw [tryElse,run_handle]
  rcases run respond p w with ⟨e | a,w'⟩
  · simp only; split <;> rfl
  · rfl

theorem run_tryElse_eq_ok_iff {p : Prog E R ε α} {catches : ε → Bool} {handler : ε → Prog E R ε β}
    {orElse : α → Prog E R ε β} {b : β} {w w' : W} :
    run respond (p.tryElse catches handler orElse) w = (.ok b,w') ↔
      (∃ a v, run respond p w = (.ok a,v) ∧ run respond (orElse a) v = (.ok b,w')) ∨
        ∃ e v, run respond p w = (.error e,v) ∧ catches e = true ∧ run respond (handler e) v = (.ok b,w') := by
  rw [run_tryElse]
  rcases run respond p w with ⟨e | a,v⟩
  · by_cases caught : catches e = true
    · simp [caught,and_assoc]
    · simp [caught,and_assoc]
  · simp [and_assoc]

theorem run_tryExcept (p : Prog E R ε α) (catches : ε → Bool) (handler : ε → Prog E R ε α) (w : W) :
    run respond (p.tryExcept catches handler) w =
      match run respond p w with
      | (.ok a,w') => (.ok a,w')
      | (.error e,w') => if catches e then run respond (handler e) w' else (.error e,w') :=
  run_tryElse respond p catches handler ret w

theorem run_finallyDo_eq_ok_iff {p : Prog E R ε α} {last : Prog E R ε Unit} {a : α} {w w' : W} :
    run respond (p.finallyDo last) w = (.ok a,w') ↔
      ∃ v, run respond p w = (.ok a,v) ∧ run respond last v = (.ok (),w') := by
  rw [finallyDo,run_handle]
  rcases run respond p w with ⟨e | b,v⟩
  · simp only [run_handle]
    rcases run respond last v with ⟨_ | _,_⟩ <;> simp
  · simp only [run_handle]
    rcases ended : run respond last v with ⟨_ | _,_⟩
    · simp [ended]
    · constructor
      · intro same
        cases same
        exact ⟨v,rfl,ended⟩
      · rintro ⟨_,same,ended'⟩
        cases same
        rw [ended] at ended'
        cases ended'
        rfl

theorem run_ite (b : Prop) [Decidable b] (p q : Prog E R ε α) (w : W) :
    run respond (if b then p else q) w = if b then run respond p w else run respond q w := by
  split <;> rfl

end

/-! ### Calls that a program cannot make -/

/-- No path through the program makes a call in `bad`. -/
def Avoids (bad : E → Prop) : Prog E R ε α → Prop
  | ret _ => True
  | raise _ => True
  | call c next => ¬ bad c ∧ ∀ r, Avoids bad (next r)

section
variable {bad : E → Prop}

@[simp] theorem avoids_ret (a : α) : Avoids bad (ret a : Prog E R ε α) := trivial
@[simp] theorem avoids_raise (e : ε) : Avoids bad (raise e : Prog E R ε α) := trivial
@[simp] theorem avoids_pure (a : α) : Avoids bad (pure a : Prog E R ε α) := trivial

@[simp] theorem avoids_ofExcept (r : Except ε α) : Avoids bad (ofExcept r : Prog E R ε α) := by
  cases r <;> trivial

@[simp] theorem avoids_perform (c : E) : Avoids bad (perform c : Prog E R ε (R c)) ↔ ¬ bad c := by
  constructor
  · exact And.left
  · intro good
    exact ⟨good,by rintro (_ | _) <;> trivial⟩

theorem avoids_handle {p : Prog E R ε α} {f : α → Prog E R ε β} {g : ε → Prog E R ε β} (first : Avoids bad p)
    (onRet : ∀ a, Avoids bad (f a)) (onRaise : ∀ e, Avoids bad (g e)) : Avoids bad (p.handle f g) := by
  induction p with
  | ret a => exact onRet a
  | raise e => exact onRaise e
  | call c next ih => exact ⟨first.1,fun r => ih r (first.2 r)⟩

theorem avoids_bind {p : Prog E R ε α} {f : α → Prog E R ε β} (first : Avoids bad p)
    (rest : ∀ a, Avoids bad (f a)) : Avoids bad (p >>= f) := avoids_handle first rest (fun _ => trivial)

theorem avoids_ite (b : Prop) [Decidable b] {p q : Prog E R ε α} (yes : b → Avoids bad p) (no : ¬ b → Avoids bad q) :
    Avoids bad (if b then p else q) := by
  split
  · exact yes ‹_›
  · exact no ‹_›

theorem avoids_tryElse {p : Prog E R ε α} {catches : ε → Bool} {handler : ε → Prog E R ε β}
    {orElse : α → Prog E R ε β} (first : Avoids bad p) (onRaise : ∀ e, Avoids bad (handler e))
    (onRet : ∀ a, Avoids bad (orElse a)) : Avoids bad (p.tryElse catches handler orElse) :=
  avoids_handle first onRet (fun e => by
    split
    · exact onRaise e
    · trivial)

theorem avoids_tryExcept {p : Prog E R ε α} {catches : ε → Bool} {handler : ε → Prog E R ε α} (first : Avoids bad p)
    (onRaise : ∀ e, Avoids bad (handler e)) : Avoids bad (p.tryExcept catches handler) :=
  avoids_tryElse first onRaise (fun _ => trivial)

theorem avoids_finallyDo {p : Prog E R ε α} {last : Prog E R ε Unit} (first : Avoids bad p) (final : Avoids bad last) :
    Avoids bad (p.finallyDo last) :=
  avoids_handle first (fun _ => avoids_handle final (fun _ => trivial) (fun _ => trivial))
    (fun _ => avoids_handle final (fun _ => trivial) (fun _ => trivial))

theorem avoids_retry {p : Prog E R ε α} {again : ε → Bool} (first : Avoids bad p) : ∀ n, Avoids bad (retry n again p)
  | 0 => first
  | n+1 => avoids_tryExcept first (fun _ => avoids_retry first n)

theorem avoids_forM {f : β → Prog E R ε Unit} (each : ∀ b, Avoids bad (f b)) : ∀ l : List β, Avoids bad (l.forM f)
  | [] => trivial
  | b :: rest => avoids_bind (each b) (fun _ => avoids_forM each rest)

theorem avoids_mono {other : E → Prop} (fewer : ∀ c, other c → bad c) {p : Prog E R ε α} (avoids : Avoids bad p) :
    Avoids other p := by
  induction p with
  | ret a => trivial
  | raise e => trivial
  | call c next ih => exact ⟨fun h => avoids.1 (fewer c h),fun r => ih r (avoids.2 r)⟩

theorem avoids_of_never (p : Prog E R ε α) : Avoids (fun _ => False) p := by
  induction p with
  | ret a => trivial
  | raise e => trivial
  | call c next ih => exact ⟨id,ih⟩

/-- No path through the program raises an exception in `bad`, unless a call has done so. -/
def Relays (bad : ε → Prop) : Prog E R ε α → Prop
  | ret _ => True
  | raise e => ¬ bad e
  | call _ next => ∀ r, (∀ e, r = .error e → ¬ bad e) → Relays bad (next r)

theorem relays_perform {wrong : ε → Prop} (c : E) : Relays wrong (perform c : Prog E R ε (R c)) := by
  intro r fine
  cases r with
  | ok a => trivial
  | error e => exact fine e rfl

theorem relays_handle {wrong : ε → Prop} {p : Prog E R ε α} {f : α → Prog E R ε β} {g : ε → Prog E R ε β}
    (first : Relays wrong p) (onRet : ∀ a, Relays wrong (f a)) (onRaise : ∀ e, ¬ wrong e → Relays wrong (g e)) :
    Relays wrong (p.handle f g) := by
  induction p with
  | ret a => exact onRet a
  | raise e => exact onRaise e first
  | call c next ih => exact fun r fine => ih r (first r fine)

theorem relays_bind {wrong : ε → Prop} {p : Prog E R ε α} {f : α → Prog E R ε β} (first : Relays wrong p)
    (rest : ∀ a, Relays wrong (f a)) : Relays wrong (p >>= f) := relays_handle first rest (fun _ fine => fine)

theorem relays_tryElse {wrong : ε → Prop} {p : Prog E R ε α} {catches : ε → Bool} {handler : ε → Prog E R ε β}
    {orElse : α → Prog E R ε β} (first : Relays wrong p) (onRaise : ∀ e, Relays wrong (handler e))
    (onRet : ∀ a, Relays wrong (orElse a)) : Relays wrong (p.tryElse catches handler orElse) := by
  refine relays_handle first onRet fun e fine => ?_
  split
  · exact onRaise e
  · exact fine

/-- A run in which no call raises such an exception does not end with one. -/
theorem run_relays {wrong : ε → Prop} {respond : W → (c : E) → Except ε (R c) × W}
    (fine : ∀ w c e, (respond w c).1 = .error e → ¬ wrong e) {p : Prog E R ε α} (relays : Relays wrong p) (w : W)
    {e : ε} (raises : (run respond p w).1 = .error e) : ¬ wrong e := by
  induction p generalizing w with
  | ret a => cases raises
  | raise e' =>
    cases raises
    exact relays
  | call c next ih => exact ih _ (relays _ (fine w c)) _ raises

/-- Every result of the program has a property, whatever its calls answer. -/
def Returns (P : α → Prop) : Prog E R ε α → Prop
  | ret a => P a
  | raise _ => True
  | call _ next => ∀ r, Returns P (next r)

theorem returns_handle {P : α → Prop} {Q : β → Prop} {p : Prog E R ε α} {f : α → Prog E R ε β} {g : ε → Prog E R ε β}
    (first : Returns P p) (onRet : ∀ a, P a → Returns Q (f a)) (onRaise : ∀ e, Returns Q (g e)) :
    Returns Q (p.handle f g) := by
  induction p with
  | ret a => exact onRet a first
  | raise e => exact onRaise e
  | call c next ih => exact fun r => ih r (first r)

theorem returns_true (p : Prog E R ε α) : Returns (fun _ => True) p := by
  induction p with
  | ret a => trivial
  | raise e => trivial
  | call c next ih => exact ih

theorem returns_bind {P : α → Prop} {Q : β → Prop} {p : Prog E R ε α} {f : α → Prog E R ε β} (first : Returns P p)
    (rest : ∀ a, P a → Returns Q (f a)) : Returns Q (p >>= f) := returns_handle first rest (fun _ => trivial)

theorem returns_bind_true {Q : β → Prop} {p : Prog E R ε α} {f : α → Prog E R ε β} (rest : ∀ a, Returns Q (f a)) :
    Returns Q (p >>= f) := returns_bind (returns_true p) (fun a _ => rest a)

theorem avoids_bind_returns {P : α → Prop} {p : Prog E R ε α} {f : α → Prog E R ε β} (first : Avoids bad p)
    (results : Returns P p) (rest : ∀ a, P a → Avoids bad (f a)) : Avoids bad (p >>= f) := by
  induction p with
  | ret a => exact rest a results
  | raise e => trivial
  | call c next ih => exact ⟨first.1,fun r => ih r (first.2 r) (results r)⟩

theorem run_returns (respond : W → (c : E) → Except ε (R c) × W) {P : α → Prop} {p : Prog E R ε α}
    (results : Returns P p) (w : W) {a : α} (ends : (run respond p w).1 = .ok a) : P a := by
  induction p generalizing w with
  | ret b => cases ends; exact results
  | raise e => cases ends
  | call c next ih => exact ih _ (results _) _ ends

/-- A run of a program that avoids the calls which change a quantity keeps it. -/
theorem run_avoids (respond : W → (c : E) → Except ε (R c) × W) (proj : W → V)
    (same : ∀ w c, ¬ bad c → proj (respond w c).2 = proj w) {p : Prog E R ε α} (avoids : Avoids bad p) (w : W) :
    proj (run respond p w).2 = proj w := by
  induction p generalizing w with
  | ret a => rfl
  | raise e => rfl
  | call c next ih => rw [run_call,ih _ (avoids.2 _),same w c avoids.1]

/-- Worlds that agree on the calls a program makes run it alike. -/
theorem run_congr {respond respond' : W → (c : E) → Except ε (R c) × W}
    (same : ∀ w c, ¬ bad c → respond w c = respond' w c) {p : Prog E R ε α} (avoids : Avoids bad p) (w : W) :
    run respond p w = run respond' p w := by
  induction p generalizing w with
  | ret a => rfl
  | raise e => rfl
  | call c next ih => rw [run_call,run_call,same w c avoids.1,ih _ (avoids.2 _)]

end

end MysqlOperators.Program
