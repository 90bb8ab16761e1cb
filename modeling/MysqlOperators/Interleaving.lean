import MysqlOperators.Program

/-!
Interleavings of programs over one world. A process runs its jobs one after the
other, a call at a time, and the environment acts between any two calls. A label
says which step is taken and what the call answers, so that a run is a list of
labels, and one that does not apply changes nothing.

An outline annotates a program with what its process knows of the world at each
call: knowledge that the steps of the others and of the environment, as far as they
keep to their part, cannot take away. Outlines of all the jobs give an invariant
of every run and what holds before every call (`holds_run`, `safe_of_holds`).

Where what a process knows is about its own part of the world, `Local` says which
part that is, and outlines need no further facts about the others.
-/
namespace MysqlOperators.Interleaving
open MysqlOperators.Program MysqlOperators.Program.Prog

/-- Processes `U` with jobs `H` that end with a `ρ`, calls `E`, a world `W` and
    actions `A` of the environment. -/
structure System (U H E : Type) (R : E → Type) (ε ρ W A : Type) where
  program : U → H → Prog E R ε ρ
  /-- What is left of an answer that the world knows better. -/
  answer : W → U → (c : E) → Except ε (R c) → Except ε (R c)
  effect : W → U → (c : E) → Except ε (R c) → Bool → W
  /-- The world when a job begins, if it can begin now. -/
  begin_ : W → U → H → Option W
  finish : W → U → H → Except ε ρ → W
  act : W → A → W

structure State (U H E : Type) (R : E → Type) (ε ρ W : Type) where
  world : W
  running : U → Option (H × Prog E R ε ρ)

inductive Label (U H E : Type) (R : E → Type) (ε A : Type) where
  | start (u : U) (job : H)
  /-- The next call of a process, and whether it takes effect when it raises. -/
  | call (u : U) (reply : (c : E) → Except ε (R c)) (happened : Bool)
  | stop (u : U)
  | act (a : A)

/-- A job on its own: at most `calls` calls with the same replies, and its end. -/
def Label.whole {U H E : Type} {R : E → Type} {ε A : Type} (u : U) (job : H) (reply : (c : E) → Except ε (R c))
    (calls : Nat) : List (Label U H E R ε A) :=
  .start u job :: List.replicate calls (.call u reply false) ++ [.stop u]

/-- A condition on the calls and the actions of a run, in the worlds where they are
    taken. The answer of a call is the one that it gets. -/
structure Condition (U E : Type) (R : E → Type) (ε W A : Type) where
  call : W → U → (c : E) → Except ε (R c) → Bool → Bool
  act : W → A → Bool

section
variable {U H E : Type} {R : E → Type} {ε ρ W A α β : Type}

/-- No process has a job. -/
def idle (w : W) : State U H E R ε ρ W := ⟨w,fun _ => none⟩

/-- The call that a process is about to make. -/
def State.next (s : State U H E R ε ρ W) (u : U) : Option E :=
  match s.running u with
  | some (_,.call c _) => some c
  | _ => none

/-- The result of a job that has returned. -/
def State.returned (s : State U H E R ε ρ W) (u : U) : Option ρ :=
  match s.running u with
  | some (_,.ret a) => some a
  | _ => none

/-- The job of a process that is over, and its result. -/
def State.result (s : State U H E R ε ρ W) (u : U) : Option (H × Except ε ρ) :=
  match s.running u with
  | some (job,.ret a) => some (job,.ok a)
  | some (job,.raise e) => some (job,.error e)
  | _ => none

section
variable [DecidableEq U]

def State.set (s : State U H E R ε ρ W) (w : W) (u : U) (job : Option (H × Prog E R ε ρ)) : State U H E R ε ρ W :=
  ⟨w,fun v => if v = u then job else s.running v⟩

@[simp] theorem set_world (s : State U H E R ε ρ W) (w : W) (u : U) (job : Option (H × Prog E R ε ρ)) :
    (s.set w u job).world = w := rfl
@[simp] theorem set_same (s : State U H E R ε ρ W) (w : W) (u : U) (job : Option (H × Prog E R ε ρ)) :
    (s.set w u job).running u = job := by simp [State.set]
theorem set_other (s : State U H E R ε ρ W) (w : W) {u v : U} (job : Option (H × Prog E R ε ρ)) (other : v ≠ u) :
    (s.set w u job).running v = s.running v := by simp [State.set,other]

namespace System
variable (sys : System U H E R ε ρ W A)

def step (s : State U H E R ε ρ W) : Label U H E R ε A → State U H E R ε ρ W
  | .start u job =>
    match s.running u,sys.begin_ s.world u job with
    | none,some w => s.set w u (some (job,sys.program u job))
    | _,_ => s
  | .call u reply happened =>
    match s.running u with
    | some (job,.call c next) =>
      let r := sys.answer s.world u c (reply c)
      s.set (sys.effect s.world u c r happened) u (some (job,next r))
    | _ => s
  | .stop u =>
    match s.running u with
    | some (job,.ret a) => s.set (sys.finish s.world u job (.ok a)) u none
    | some (job,.raise e) => s.set (sys.finish s.world u job (.error e)) u none
    | _ => s
  | .act a => ⟨sys.act s.world a,s.running⟩

def run (s : State U H E R ε ρ W) (labels : List (Label U H E R ε A)) : State U H E R ε ρ W :=
  labels.foldl sys.step s

/-- The step meets the condition. -/
def allowed (condition : Condition U E R ε W A) (s : State U H E R ε ρ W) : Label U H E R ε A → Bool
  | .call u reply happened =>
    match s.running u with
    | some (_,.call c _) => condition.call s.world u c (sys.answer s.world u c (reply c)) happened
    | _ => true
  | .act a => condition.act s.world a
  | _ => true

def allAllowed (condition : Condition U E R ε W A) : State U H E R ε ρ W → List (Label U H E R ε A) → Bool
  | _, [] => true
  | s, label :: rest => sys.allowed condition s label && allAllowed condition (sys.step s label) rest

/-- Every call may get every answer. -/
def unrestricted : Condition U E R ε W A := ⟨fun _ _ _ _ _ => true,fun _ _ => true⟩

theorem allAllowed_unrestricted (s : State U H E R ε ρ W) (labels : List (Label U H E R ε A)) :
    sys.allAllowed unrestricted s labels = true := by
  induction labels generalizing s with
  | nil => rfl
  | cons label rest ih =>
    rw [allAllowed,ih,Bool.and_true]
    cases label with
    | start u job => rfl
    | stop u => rfl
    | act a => rfl
    | call u reply happened =>
      unfold allowed
      dsimp only
      split <;> rfl

/-- What holds of a process without a job: the end of each job brings it about, and no
    step of another process or of the environment takes it away. -/
structure Rests (rest : U → W → Prop) : Prop where
  finishes : ∀ w u job r, rest u (sys.finish w u job r)
  begins : ∀ w u v job w', v ≠ u → sys.begin_ w u job = some w' → rest v w → rest v w'
  calls : ∀ w u v c r happened, v ≠ u → rest v w → rest v (sys.effect w u c r happened)
  ends : ∀ w u v job r, v ≠ u → rest v w → rest v (sys.finish w u job r)
  acts : ∀ w v a, rest v w → rest v (sys.act w a)

variable {sys} in
theorem rests_step {rest : U → W → Prop} (rests : sys.Rests rest) {s : State U H E R ε ρ W}
    (before : ∀ u, s.running u = none → rest u s.world) (label : Label U H E R ε A) :
    ∀ u, (sys.step s label).running u = none → rest u (sys.step s label).world := by
  intro v free
  -- a step of another process, in the end without a job or with one
  have others (u : U) (w : W) (job : Option (H × Prog E R ε ρ)) (kept : v ≠ u → rest v s.world → rest v w)
      (own : job = none → v = u → rest v w) : (s.set w u job).running v = none → rest v w := by
    intro free
    by_cases same : v = u
    · subst same
      rw [set_same] at free
      exact own free rfl
    · rw [set_other s w job same] at free
      exact kept same (before v free)
  cases label with
  | start u job =>
    simp only [System.step] at free ⊢
    split at free
    · rename_i w _ begins
      exact others u w (some _) (fun other => rests.begins _ _ _ _ _ other begins) nofun free
    · exact before v free
  | call u reply happened =>
    simp only [System.step] at free ⊢
    split at free
    · exact others u _ (some _) (rests.calls _ _ _ _ _ _) nofun free
    · exact before v free
  | stop u =>
    simp only [System.step] at free ⊢
    split at free
    · exact others u _ _ (rests.ends _ _ _ _ _) (fun _ same => same ▸ rests.finishes _ _ _ _) free
    · exact others u _ _ (rests.ends _ _ _ _ _) (fun _ same => same ▸ rests.finishes _ _ _ _) free
    · exact before v free
  | act a => exact rests.acts _ _ _ (before v free)

variable {sys} in
theorem rests_run {rest : U → W → Prop} (rests : sys.Rests rest) (labels : List (Label U H E R ε A)) :
    ∀ {s : State U H E R ε ρ W}, (∀ u, s.running u = none → rest u s.world) →
      ∀ u, (sys.run s labels).running u = none → rest u (sys.run s labels).world := by
  induction labels with
  | nil => exact fun before => before
  | cons label more ih => exact fun before => ih (rests_step rests before label)

/-- What holds of the world and no part of a step takes away. -/
structure Stays (P : W → Prop) : Prop where
  begins : ∀ w u job w', sys.begin_ w u job = some w' → P w → P w'
  calls : ∀ w u c r happened, P w → P (sys.effect w u c r happened)
  ends : ∀ w u job r, P w → P (sys.finish w u job r)
  acts : ∀ w a, P w → P (sys.act w a)

variable {sys} in
theorem stays_step {P : W → Prop} (stays : sys.Stays P) {s : State U H E R ε ρ W} (holds : P s.world)
    (label : Label U H E R ε A) : P (sys.step s label).world := by
  cases label with
  | start u job =>
    simp only [System.step]
    split
    · rename_i w _ begins
      exact stays.begins _ _ _ _ begins holds
    · exact holds
  | call u reply happened =>
    simp only [System.step]
    split
    · exact stays.calls _ _ _ _ _ holds
    · exact holds
  | stop u =>
    simp only [System.step]
    split
    · exact stays.ends _ _ _ _ holds
    · exact stays.ends _ _ _ _ holds
    · exact holds
  | act a => exact stays.acts _ _ holds

variable {sys} in
theorem stays_run {P : W → Prop} (stays : sys.Stays P) (labels : List (Label U H E R ε A)) :
    ∀ {s : State U H E R ε ρ W}, P s.world → P (sys.run s labels).world := by
  induction labels with
  | nil => exact fun holds => holds
  | cons label more ih => exact fun holds => ih (stays_step stays holds label)

end System
end

/-! ### Contracts -/

/-- What each process promises to the others, what the environment may do, what
    always holds of the world, and what shall hold before every call. -/
structure Contract (U E : Type) (R : E → Type) (ε W A : Type) where
  condition : Condition U E R ε W A
  inv : W → Prop
  guarantee : U → W → W → Prop
  environment : W → W → Prop
  safe : W → U → E → Prop

namespace Contract
variable (k : Contract U E R ε W A)

/-- Knowledge of `u` that neither the other processes nor the environment take away. -/
def Stable (u : U) (L : W → Prop) : Prop :=
  ∀ w w', k.inv w → k.inv w' → L w → (k.environment w w' ∨ ∃ v, v ≠ u ∧ k.guarantee v w w') → L w'

theorem stable_const (u : U) (P : Prop) : k.Stable u (fun _ => P) := fun _ _ _ _ holds _ => holds

variable (sys : System U H E R ε ρ W A)

/-- From knowledge `L` the call is safe, keeps to the contract and ends with `Q`. -/
def Takes (u : U) (c : E) (L : W → Prop) (Q : Except ε (R c) → W → Prop) : Prop :=
  ∀ w, k.inv w → L w → k.safe w u c ∧ ∀ reply happened,
    k.condition.call w u c (sys.answer w u c reply) happened = true →
      k.inv (sys.effect w u c (sys.answer w u c reply) happened) ∧
      k.guarantee u w (sys.effect w u c (sys.answer w u c reply) happened) ∧
      Q (sys.answer w u c reply) (sys.effect w u c (sys.answer w u c reply) happened)

/-- The program can be annotated with stable knowledge, from `L` to `Q`. -/
def Outline (u : U) : Prog E R ε α → (W → Prop) → (Except ε α → W → Prop) → Prop
  | ret a, L, Q => ∀ w, k.inv w → L w → Q (.ok a) w
  | raise e, L, Q => ∀ w, k.inv w → L w → Q (.error e) w
  | call c next, L, Q => ∃ (Pre : W → Prop) (Post : Except ε (R c) → W → Prop),
      (∀ w, k.inv w → L w → Pre w) ∧ k.Stable u Pre ∧ k.Takes sys u c Pre Post ∧
        ∀ r, Outline u (next r) (Post r) Q

/-- Every end will do. -/
def Keeps (u : U) (p : Prog E R ε α) (L : W → Prop) : Prop := k.Outline sys u p L (fun _ _ => True)

/-! ### Rules -/

variable {k sys} {u : U}

theorem outline_pre {p : Prog E R ε α} {L M : W → Prop} {Q : Except ε α → W → Prop} (outline : k.Outline sys u p M Q)
    (stronger : ∀ w, k.inv w → L w → M w) : k.Outline sys u p L Q := by
  cases p with
  | ret a => exact fun w inv holds => outline w inv (stronger w inv holds)
  | raise e => exact fun w inv holds => outline w inv (stronger w inv holds)
  | call c next =>
    obtain ⟨Pre,Post,enough,stable,takes,rest⟩ := outline
    exact ⟨Pre,Post,fun w inv holds => enough w inv (stronger w inv holds),stable,takes,rest⟩

theorem outline_post {p : Prog E R ε α} {L : W → Prop} {Q Q' : Except ε α → W → Prop} (outline : k.Outline sys u p L Q)
    (weaker : ∀ r w, k.inv w → Q r w → Q' r w) : k.Outline sys u p L Q' := by
  induction p generalizing L with
  | ret a => exact fun w inv holds => weaker _ w inv (outline w inv holds)
  | raise e => exact fun w inv holds => weaker _ w inv (outline w inv holds)
  | call c next ih =>
    obtain ⟨Pre,Post,enough,stable,takes,rest⟩ := outline
    exact ⟨Pre,Post,enough,stable,takes,fun r => ih r (rest r)⟩

theorem outline_handle {p : Prog E R ε α} {f : α → Prog E R ε β} {g : ε → Prog E R ε β} {L : W → Prop}
    {M : Except ε α → W → Prop} {Q : Except ε β → W → Prop} (first : k.Outline sys u p L M)
    (onRet : ∀ a, k.Outline sys u (f a) (M (.ok a)) Q) (onRaise : ∀ e, k.Outline sys u (g e) (M (.error e)) Q) :
    k.Outline sys u (p.handle f g) L Q := by
  induction p generalizing L with
  | ret a => exact outline_pre (onRet a) first
  | raise e => exact outline_pre (onRaise e) first
  | call c next ih =>
    obtain ⟨Pre,Post,enough,stable,takes,rest⟩ := first
    exact ⟨Pre,Post,enough,stable,takes,fun r => ih r (rest r)⟩

theorem outline_bind {p : Prog E R ε α} {f : α → Prog E R ε β} {L : W → Prop} {M : Except ε α → W → Prop}
    {Q : Except ε β → W → Prop} (first : k.Outline sys u p L M) (rest : ∀ a, k.Outline sys u (f a) (M (.ok a)) Q)
    (fails : ∀ e w, k.inv w → M (.error e) w → Q (.error e) w) : k.Outline sys u (p >>= f) L Q :=
  outline_handle first rest (fun e w inv holds => fails e w inv holds)

/-- A part that starts with less than is known, and the rest. -/
theorem outline_seq {p : Prog E R ε α} {f : α → Prog E R ε β} {L L' : W → Prop} {M : Except ε α → W → Prop}
    {Q : Except ε β → W → Prop} (first : k.Outline sys u p L' M) (ready : ∀ w, k.inv w → L w → L' w)
    (rest : ∀ a, k.Outline sys u (f a) (M (.ok a)) Q) (fails : ∀ e w, k.inv w → M (.error e) w → Q (.error e) w) :
    k.Outline sys u (p >>= f) L Q := outline_pre (outline_bind first rest fails) ready

theorem outline_tryElse {p : Prog E R ε α} {catches : ε → Bool} {handler : ε → Prog E R ε β}
    {orElse : α → Prog E R ε β} {L : W → Prop} {M : Except ε α → W → Prop} {Q : Except ε β → W → Prop}
    (first : k.Outline sys u p L M) (onRaise : ∀ e, catches e = true → k.Outline sys u (handler e) (M (.error e)) Q)
    (onRet : ∀ a, k.Outline sys u (orElse a) (M (.ok a)) Q)
    (fails : ∀ e, catches e = false → ∀ w, k.inv w → M (.error e) w → Q (.error e) w) :
    k.Outline sys u (p.tryElse catches handler orElse) L Q := by
  refine outline_handle first onRet fun e => ?_
  split
  · exact onRaise e ‹_›
  · rename_i other
    exact fun w inv holds => fails e (by simpa using other) w inv holds

theorem outline_perform {c : E} {L : W → Prop} {Q : Except ε (R c) → W → Prop} (stable : k.Stable u L)
    (takes : k.Takes sys u c L Q) : k.Outline sys u (perform c) L Q := by
  refine ⟨L,Q,fun _ _ holds => holds,stable,takes,?_⟩
  rintro (e | a)
  · exact fun _ _ holds => holds
  · exact fun _ _ holds => holds

theorem outline_ite (b : Prop) [Decidable b] {p q : Prog E R ε α} {L : W → Prop} {Q : Except ε α → W → Prop}
    (yes : b → k.Outline sys u p L Q) (no : ¬ b → k.Outline sys u q L Q) :
    k.Outline sys u (if b then p else q) L Q := by
  split
  · exact yes ‹_›
  · exact no ‹_›

/-- Attempts that fail give way to the next one. -/
theorem outline_retry {body : Prog E R ε α} {again : ε → Bool} {L : W → Prop} {Q : Except ε α → W → Prop}
    (each : k.Outline sys u body L Q) (anew : ∀ e w, k.inv w → Q (.error e) w → L w) :
    ∀ n, k.Outline sys u (retry n again body) L Q
  | 0 => each
  | n+1 => outline_tryElse each (fun e _ => outline_pre (outline_retry each anew n) (anew e))
      (fun _ _ _ holds => holds) (fun _ _ _ _ holds => holds)

/-- What holds only if a fact does may be used with the fact. -/
theorem outline_assuming {p : Prog E R ε α} {P : Prop} {L : W → Prop} {Q : Except ε α → W → Prop}
    (outline : P → k.Outline sys u p L Q) : k.Outline sys u p (fun w => P ∧ L w) Q := by
  by_cases fact : P
  · exact outline_pre (outline fact) (fun _ _ holds => holds.2)
  · clear outline
    induction p with
    | ret a => exact fun _ _ holds => absurd holds.1 fact
    | raise e => exact fun _ _ holds => absurd holds.1 fact
    | call c next ih =>
      refine ⟨fun _ => False,fun _ _ => False,fun _ _ holds => fact holds.1,k.stable_const u False,nofun,fun r => ?_⟩
      exact outline_pre (ih r) nofun

/-- A program keeps knowledge that none of its calls takes away. -/
theorem outline_frame {bad : E → Prop} {p : Prog E R ε α} {L : W → Prop} (stable : k.Stable u L)
    (keeps : ∀ c, ¬ bad c → k.Takes sys u c L (fun _ => L)) (avoids : Avoids bad p) :
    k.Outline sys u p L (fun _ => L) := by
  induction p with
  | ret a => exact fun _ _ holds => holds
  | raise e => exact fun _ _ holds => holds
  | call c next ih =>
    exact ⟨L,fun _ => L,fun _ _ holds => holds,stable,keeps c avoids.1,fun r => ih r (avoids.2 r)⟩

theorem keeps_bind {p : Prog E R ε α} {f : α → Prog E R ε β} {L : W → Prop} {M : Except ε α → W → Prop}
    (first : k.Outline sys u p L M) (rest : ∀ a, k.Keeps sys u (f a) (M (.ok a))) : k.Keeps sys u (p >>= f) L :=
  outline_bind first rest (fun _ _ _ _ => trivial)

/-! ### Programs that return -/

variable (k sys) in
/-- From `L` the program ends with `D` of its result, if it returns. -/
def Yields (u : U) (p : Prog E R ε α) (L : W → Prop) (D : α → W → Prop) : Prop :=
  k.Outline sys u p L (fun r w => ∀ a, r = .ok a → D a w)

section
variable {L L' : W → Prop} {D : α → W → Prop}

theorem yields_pre {p : Prog E R ε α} (yields : k.Yields sys u p L' D) (stronger : ∀ w, k.inv w → L w → L' w) :
    k.Yields sys u p L D := outline_pre yields stronger

theorem yields_pure {a : α} (holds : ∀ w, k.inv w → L w → D a w) : k.Yields sys u (pure a) L D := by
  intro w inv known b same
  cases same
  exact holds w inv known

theorem yields_raise {e : ε} : k.Yields sys u (raise e) L D := fun _ _ _ _ same => by cases same

theorem yields_handle {p : Prog E R ε β} {f : β → Prog E R ε α} {g : ε → Prog E R ε α} {M : β → W → Prop}
    (first : k.Yields sys u p L M) (onRet : ∀ b, k.Yields sys u (f b) (M b) D)
    (onRaise : ∀ e, k.Yields sys u (g e) (fun _ => True) D) : k.Yields sys u (p.handle f g) L D :=
  outline_handle first (fun b => yields_pre (onRet b) fun _ _ owed => owed b rfl)
    (fun e => yields_pre (onRaise e) fun _ _ _ => trivial)

theorem yields_bind {p : Prog E R ε β} {f : β → Prog E R ε α} {M : β → W → Prop} (first : k.Yields sys u p L M)
    (rest : ∀ b, k.Yields sys u (f b) (M b) D) : k.Yields sys u (p >>= f) L D :=
  yields_handle first rest (fun _ => yields_raise)

theorem yields_tryElse {p : Prog E R ε β} {catches : ε → Bool} {handler : ε → Prog E R ε α}
    {orElse : β → Prog E R ε α} {M : β → W → Prop} (first : k.Yields sys u p L M)
    (onRaise : ∀ e, k.Yields sys u (handler e) (fun _ => True) D) (onRet : ∀ b, k.Yields sys u (orElse b) (M b) D) :
    k.Yields sys u (p.tryElse catches handler orElse) L D := by
  refine yields_handle first onRet fun e => ?_
  split
  · exact onRaise e
  · exact yields_raise

theorem yields_ite (b : Prop) [Decidable b] {p q : Prog E R ε α} (yes : b → k.Yields sys u p L D)
    (no : ¬ b → k.Yields sys u q L D) : k.Yields sys u (if b then p else q) L D := outline_ite b yes no

theorem yields_perform {c : E} {D : R c → W → Prop} (stable : k.Stable u L)
    (takes : k.Takes sys u c L (fun r w => ∀ a, r = .ok a → D a w)) : k.Yields sys u (perform c) L D :=
  outline_perform stable takes

end

/-! ### Local knowledge -/

/-- Knowledge of a process in terms of the values `V` that its own part of the world
    may have. None of it is taken away, and a call that is made with contradictory
    knowledge leaves it so. -/
structure Local (k : Contract U E R ε W A) (sys : System U H E R ε ρ W A) (u : U) (V : Type) where
  knows : (V → Prop) → W → Prop
  mono : ∀ {P P' : V → Prop} {w : W}, (∀ v, P v → P' v) → knows P w → knows P' w
  stable : ∀ P, k.Stable u (knows P)
  void : ∀ c, k.Takes sys u c (knows fun _ => False) (fun _ => knows fun _ => False)

namespace Local
variable {V : Type}

variable (sys) in
/-- What a process owns is left alone by the others and by the environment. -/
def owning (own : W → V) (kept : ∀ w w', k.inv w → k.inv w' →
    (k.environment w w' ∨ ∃ v, v ≠ u ∧ k.guarantee v w w') → own w' = own w) : Local k sys u V where
  knows P w := P (own w)
  mono weaker := weaker _
  stable P w w' before after known moves := by
    show P (own w')
    rw [kept w w' before after moves]
    exact known
  void _ _ _ gone := gone.elim

variable (l : Local k sys u V) {P P' : V → Prop}

/-- From `P` a program goes to `Q`. -/
def Goes (p : Prog E R ε α) (P : V → Prop) (Q : Except ε α → V → Prop) : Prop :=
  k.Outline sys u p (l.knows P) (fun r => l.knows (Q r))

variable {l}

section
variable {M Q : Except ε α → V → Prop}

theorem goes_pre {p : Prog E R ε α} (goes : l.Goes p P' Q) (stronger : ∀ v, P v → P' v) : l.Goes p P Q :=
  outline_pre goes (fun _ _ known => l.mono stronger known)

theorem goes_post {p : Prog E R ε α} (goes : l.Goes p P M) (weaker : ∀ r v, M r v → Q r v) : l.Goes p P Q :=
  outline_post goes (fun r _ _ known => l.mono (weaker r) known)

theorem goes_pure {a : α} (holds : ∀ v, P v → Q (.ok a) v) : l.Goes (pure a) P Q := fun _ _ known => l.mono holds known

theorem goes_raise {e : ε} (holds : ∀ v, P v → Q (.error e) v) : l.Goes (raise e) P Q :=
  fun _ _ known => l.mono holds known

theorem goes_bind {p : Prog E R ε β} {f : β → Prog E R ε α} {M : Except ε β → V → Prop} (first : l.Goes p P M)
    (rest : ∀ b, l.Goes (f b) (M (.ok b)) Q) (fails : ∀ e v, M (.error e) v → Q (.error e) v) : l.Goes (p >>= f) P Q :=
  outline_bind first rest (fun e _ _ known => l.mono (fails e) known)

theorem goes_tryElse {p : Prog E R ε β} {catches : ε → Bool} {handler : ε → Prog E R ε α}
    {orElse : β → Prog E R ε α} {M : Except ε β → V → Prop} (first : l.Goes p P M)
    (onRaise : ∀ e, catches e = true → l.Goes (handler e) (M (.error e)) Q)
    (onRet : ∀ b, l.Goes (orElse b) (M (.ok b)) Q)
    (fails : ∀ e, catches e = false → ∀ v, M (.error e) v → Q (.error e) v) :
    l.Goes (p.tryElse catches handler orElse) P Q :=
  outline_tryElse first onRaise onRet (fun e other _ _ known => l.mono (fails e other) known)

theorem goes_ite (b : Prop) [Decidable b] {p q : Prog E R ε α} (yes : b → l.Goes p P Q) (no : ¬ b → l.Goes q P Q) :
    l.Goes (if b then p else q) P Q := outline_ite b yes no

theorem goes_perform {c : E} {Q : Except ε (R c) → V → Prop}
    (takes : k.Takes sys u c (l.knows P) (fun r => l.knows (Q r))) : l.Goes (perform c) P Q :=
  outline_perform (l.stable P) takes

theorem goes_frame {bad : E → Prop} {p : Prog E R ε α}
    (keeps : ∀ c, ¬ bad c → k.Takes sys u c (l.knows P) (fun _ => l.knows P)) (avoids : Avoids bad p) :
    l.Goes p P (fun _ => P) := outline_frame (l.stable P) keeps avoids

theorem goes_finallyDo {p : Prog E R ε α} {last : Prog E R ε Unit} {N : Except ε α → Except ε Unit → V → Prop}
    (first : l.Goes p P M) (final : ∀ r, l.Goes last (M r) (N r)) (kept : ∀ r v, N r (.ok ()) v → Q r v)
    (fails : ∀ r e v, N r (.error e) v → Q (.error e) v) : l.Goes (p.finallyDo last) P Q := by
  apply outline_handle first
  · intro a
    exact outline_handle (final (.ok a)) (fun _ _ _ known => l.mono (kept _) known)
      (fun e _ _ known => l.mono (fails _ e) known)
  · intro e
    exact outline_handle (final (.error e)) (fun _ _ _ known => l.mono (kept _) known)
      (fun e _ _ known => l.mono (fails _ e) known)

/-- What is known of no value will do for everything. -/
theorem goes_void (p : Prog E R ε α) : l.Goes p (fun _ => False) Q :=
  goes_post (goes_frame (fun c _ => l.void c) (avoids_of_never p)) (fun _ _ => False.elim)

/-- A fact that is known may be used. -/
theorem goes_knowing {fact : Prop} {p : Prog E R ε α} (goes : fact → l.Goes p P Q) :
    l.Goes p (fun v => fact ∧ P v) Q := by
  by_cases holds : fact
  · exact goes_pre (goes holds) (fun _ both => both.2)
  · exact goes_pre (goes_void p) (fun _ both => holds both.1)

end

end Local

/-! ### Duties -/

/-- What a job may take for granted when it begins, and what it owes when it ends. -/
structure Duties (U H : Type) (ε ρ W : Type) where
  starts : U → H → W → Prop
  ends : U → H → Except ε ρ → W → Prop

variable (k sys)
variable (d : Duties U H ε ρ W)

/-- Every job has an outline from what it takes for granted to what it owes, which
    lasts until the job is over, and what is not a call keeps to the contract. -/
structure Fulfils : Prop where
  begins : ∀ w u job w', k.inv w → sys.begin_ w u job = some w' → k.inv w' ∧ k.guarantee u w w' ∧ d.starts u job w'
  finishes : ∀ w u job r, k.inv w → d.ends u job r w →
    k.inv (sys.finish w u job r) ∧ k.guarantee u w (sys.finish w u job r)
  acts : ∀ w a, k.inv w → k.condition.act w a = true → k.inv (sys.act w a) ∧ k.environment w (sys.act w a)
  jobs : ∀ u job, k.Outline sys u (sys.program u job) (d.starts u job) (d.ends u job)
  lasts : ∀ u job r, k.Stable u (d.ends u job r)

/-- Every running program has an outline from something that its process knows to
    what its job owes. -/
def Bound (s : State U H E R ε ρ W) : Prop :=
  k.inv s.world ∧ ∀ u job p, s.running u = some (job,p) →
    ∃ L, k.Stable u L ∧ L s.world ∧ k.Outline sys u p L (d.ends u job)

variable {k sys d}

theorem bound_idle {w : W} (inv : k.inv w) : k.Bound sys d (idle w) := ⟨inv,fun _ _ _ h => by cases h⟩

/-- What a process knows after its own step is stable before its next one. -/
theorem outline_resume {p : Prog E R ε α} {L : W → Prop} {Q : Except ε α → W → Prop} {w : W}
    (outline : k.Outline sys u p L Q) (lasts : ∀ r, k.Stable u (Q r)) (inv : k.inv w) (holds : L w) :
    ∃ L', k.Stable u L' ∧ L' w ∧ k.Outline sys u p L' Q := by
  cases p with
  | ret a => exact ⟨Q (.ok a),lasts _,outline w inv holds,fun _ _ owed => owed⟩
  | raise e => exact ⟨Q (.error e),lasts _,outline w inv holds,fun _ _ owed => owed⟩
  | call c next =>
    obtain ⟨Pre,Post,enough,stable,takes,rest⟩ := outline
    exact ⟨Pre,stable,enough w inv holds,Pre,Post,fun _ _ h => h,stable,takes,rest⟩

theorem safe_of_bound {s : State U H E R ε ρ W} (bound : k.Bound sys d s) {c : E} (next : s.next u = some c) :
    k.safe s.world u c := by
  unfold State.next at next
  split at next
  · rename_i job c' rest running
    cases next
    obtain ⟨L,_,now,Pre,Post,enough,_,takes,_⟩ := bound.2 u job _ running
    exact (takes s.world bound.1 (enough s.world bound.1 now)).1
  · cases next

/-- A job that is over has done its duty. -/
theorem duty_of_bound {s : State U H E R ε ρ W} (bound : k.Bound sys d s) {job : H} {r : Except ε ρ}
    (result : s.result u = some (job,r)) : d.ends u job r s.world := by
  unfold State.result at result
  split at result
  · rename_i h a running
    cases result
    obtain ⟨L,_,now,outline⟩ := bound.2 u job _ running
    exact outline s.world bound.1 now
  · rename_i h e running
    cases result
    obtain ⟨L,_,now,outline⟩ := bound.2 u job _ running
    exact outline s.world bound.1 now
  · cases result

/-- A job that has returned has done its duty. -/
theorem ends_of_bound {s : State U H E R ε ρ W} (bound : k.Bound sys d s) {a : ρ} (returned : s.returned u = some a) :
    ∃ job, d.ends u job (.ok a) s.world := by
  unfold State.returned at returned
  split at returned
  · rename_i job b running
    cases returned
    obtain ⟨L,_,now,outline⟩ := bound.2 u job _ running
    exact ⟨job,outline s.world bound.1 now⟩
  · cases returned

section
variable [DecidableEq U]

/-- A step of `u` leaves the others what they know. -/
theorem bound_set {s : State U H E R ε ρ W} (bound : k.Bound sys d s) {w : W} (inv : k.inv w)
    (guarantee : k.guarantee u s.world w) {running : Option (H × Prog E R ε ρ)}
    (own : ∀ job p, running = some (job,p) → ∃ L, k.Stable u L ∧ L w ∧ k.Outline sys u p L (d.ends u job)) :
    k.Bound sys d (s.set w u running) := by
  refine ⟨inv,fun v h p now => ?_⟩
  by_cases same : v = u
  · subst same
    rw [set_same] at now
    exact own h p now
  · rw [set_other s w running same] at now
    obtain ⟨L,stable,holds,outline⟩ := bound.2 v h p now
    exact ⟨L,stable,stable s.world w bound.1 inv holds (.inr ⟨u,Ne.symm same,guarantee⟩),outline⟩

theorem bound_step (fulfils : k.Fulfils sys d) {s : State U H E R ε ρ W} (bound : k.Bound sys d s)
    (label : Label U H E R ε A) (allowed : sys.allowed k.condition s label = true) :
    k.Bound sys d (sys.step s label) := by
  cases label with
  | start u job =>
    simp only [System.step]
    split
    case h_1 w _ begins =>
      obtain ⟨inv,guarantee,starts⟩ := fulfils.begins s.world u job w bound.1 begins
      refine bound_set bound inv guarantee fun h p same => ?_
      cases same
      exact outline_resume (fulfils.jobs u job) (fulfils.lasts u job) inv starts
    case h_2 => exact bound
  | call u reply happened =>
    simp only [System.step]
    split
    case h_1 job c next running =>
      simp only [System.allowed,running] at allowed
      obtain ⟨L,stable,now,Pre,Post,enough,_,takes,rest⟩ := bound.2 u job _ running
      obtain ⟨_,effects⟩ := takes s.world bound.1 (enough s.world bound.1 now)
      obtain ⟨inv,guarantee,post⟩ := effects (reply c) happened allowed
      refine bound_set bound inv guarantee fun h p same => ?_
      cases same
      exact outline_resume (rest _) (fulfils.lasts u job) inv post
    case h_2 => exact bound
  | stop u =>
    simp only [System.step]
    split
    case h_1 job a running =>
      obtain ⟨L,_,now,outline⟩ := bound.2 u job _ running
      obtain ⟨inv,guarantee⟩ := fulfils.finishes s.world u job (.ok a) bound.1 (outline s.world bound.1 now)
      exact bound_set bound inv guarantee (fun _ _ same => by cases same)
    case h_2 job e running =>
      obtain ⟨L,_,now,outline⟩ := bound.2 u job _ running
      obtain ⟨inv,guarantee⟩ := fulfils.finishes s.world u job (.error e) bound.1 (outline s.world bound.1 now)
      exact bound_set bound inv guarantee (fun _ _ same => by cases same)
    case h_3 => exact bound
  | act a =>
    obtain ⟨inv,moves⟩ := fulfils.acts s.world a bound.1 allowed
    refine ⟨inv,fun u job p running => ?_⟩
    obtain ⟨L,stable,now,outline⟩ := bound.2 u job p running
    exact ⟨L,stable,stable s.world _ bound.1 inv now (.inl moves),outline⟩

theorem bound_run (fulfils : k.Fulfils sys d) {s : State U H E R ε ρ W} (bound : k.Bound sys d s) :
    ∀ labels, sys.allAllowed k.condition s labels = true → k.Bound sys d (sys.run s labels) := by
  intro labels
  induction labels generalizing s with
  | nil => exact fun _ => bound
  | cons label rest ih =>
    intro allowed
    obtain ⟨first,later⟩ := Bool.and_eq_true_iff.mp allowed
    exact ih (bound_step fulfils bound label first) later

end

/-! ### Runs -/

/-- Nothing is taken for granted, and nothing is owed. -/
def noDuties (U H ε ρ W : Type) : Duties U H ε ρ W := ⟨fun _ _ _ => True,fun _ _ _ _ => True⟩

variable (k sys)

/-- Every job has an outline, and what is not a call keeps to the contract. -/
structure Meets : Prop where
  begins : ∀ w u job w', k.inv w → sys.begin_ w u job = some w' → k.inv w' ∧ k.guarantee u w w'
  finishes : ∀ w u job r, k.inv w → k.inv (sys.finish w u job r) ∧ k.guarantee u w (sys.finish w u job r)
  acts : ∀ w a, k.inv w → k.condition.act w a = true → k.inv (sys.act w a) ∧ k.environment w (sys.act w a)
  jobs : ∀ u job, k.Keeps sys u (sys.program u job) (fun _ => True)

/-- Every running program has an outline from something that its process knows. -/
def Holds (s : State U H E R ε ρ W) : Prop :=
  k.inv s.world ∧ ∀ u job p, s.running u = some (job,p) → ∃ L, k.Stable u L ∧ L s.world ∧ k.Keeps sys u p L

variable {k sys}

theorem fulfils_of_meets (meets : k.Meets sys) : k.Fulfils sys (noDuties U H ε ρ W) where
  begins w u job w' inv begins :=
    let ⟨inv',guarantee⟩ := meets.begins w u job w' inv begins
    ⟨inv',guarantee,trivial⟩
  finishes w u job r inv _ := meets.finishes w u job r inv
  acts := meets.acts
  jobs := meets.jobs
  lasts u _ _ := k.stable_const u True

theorem bound_iff_holds {s : State U H E R ε ρ W} : k.Bound sys (noDuties U H ε ρ W) s ↔ k.Holds sys s := Iff.rfl

theorem holds_idle {w : W} (inv : k.inv w) : k.Holds sys (idle w) := ⟨inv,fun _ _ _ h => by cases h⟩

theorem safe_of_holds {s : State U H E R ε ρ W} (holds : k.Holds sys s) {c : E} (next : s.next u = some c) :
    k.safe s.world u c := safe_of_bound (bound_iff_holds.mpr holds) next

variable [DecidableEq U]

theorem holds_run (meets : k.Meets sys) {s : State U H E R ε ρ W} (holds : k.Holds sys s) :
    ∀ labels, sys.allAllowed k.condition s labels = true → k.Holds sys (sys.run s labels) :=
  fun labels allowed =>
    bound_iff_holds.mp (bound_run (fulfils_of_meets meets) (bound_iff_holds.mpr holds) labels allowed)

end Contract
end

end MysqlOperators.Interleaving
