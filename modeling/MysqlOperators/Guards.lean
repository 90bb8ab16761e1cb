import MysqlOperators.Program

/-!
What holds at every call of a run. `EveryCall` says it of the world in which the call is
made; `Guarded` adds what is known before a run and after it, so that the parts of a program
can be put together.
-/
namespace MysqlOperators.Guards
open MysqlOperators.Program MysqlOperators.Program.Prog

variable {E : Type} {R : E → Type} {ε α β W : Type}

section
variable (respond : W → (c : E) → Except ε (R c) × W)

/-- Every call of a run has a property in the world in which it is made. -/
def EveryCall (P : W → E → Prop) : Prog E R ε α → W → Prop
  | ret _,_ => True
  | raise _,_ => True
  | call c next,w => P w c ∧ EveryCall P (next (respond w c).1) (respond w c).2

/-- From a world with the first property, every call is as it should be, and the run ends
    with its outcome and its world in the second one. -/
def Guarded (P : W → E → Prop) (Pre : W → Prop) (p : Prog E R ε α) (Post : Except ε α → W → Prop) : Prop :=
  ∀ w, Pre w → EveryCall respond P p w ∧ Post (run respond p w).1 (run respond p w).2

variable {respond} {P : W → E → Prop} {Pre Pre' : W → Prop} {p : Prog E R ε α}
variable {Post Post' : Except ε α → W → Prop} {Last : Except ε β → W → Prop}

theorem everyCall_handle {f : α → Prog E R ε β} {g : ε → Prog E R ε β} {w : W} (first : EveryCall respond P p w)
    (onRet : ∀ a w', run respond p w = (.ok a,w') → EveryCall respond P (f a) w')
    (onRaise : ∀ e w', run respond p w = (.error e,w') → EveryCall respond P (g e) w') :
    EveryCall respond P (p.handle f g) w := by
  induction p generalizing w with
  | ret a => exact onRet a w rfl
  | raise e => exact onRaise e w rfl
  | call c next ih => exact ⟨first.1,ih _ first.2 onRet onRaise⟩

theorem guarded_ret {a : α} (holds : ∀ w, Pre w → Post (.ok a) w) : Guarded respond P Pre (ret a) Post :=
  fun w before => ⟨trivial,holds w before⟩

theorem guarded_raise {e : ε} (holds : ∀ w, Pre w → Post (.error e) w) : Guarded respond P Pre (raise e) Post :=
  fun w before => ⟨trivial,holds w before⟩

theorem guarded_perform {c : E} {Post : Except ε (R c) → W → Prop}
    (holds : ∀ w, Pre w → P w c ∧ Post (respond w c).1 (respond w c).2) :
    Guarded respond P Pre (perform c) Post := by
  intro w before
  rw [run_perform]
  obtain ⟨good,after⟩ := holds w before
  refine ⟨⟨good,?_⟩,after⟩
  cases (respond w c).1 <;> trivial

theorem guarded_handle {f : α → Prog E R ε β} {g : ε → Prog E R ε β} (first : Guarded respond P Pre p Post)
    (onRet : ∀ a, Guarded respond P (Post (.ok a)) (f a) Last)
    (onRaise : ∀ e, Guarded respond P (Post (.error e)) (g e) Last) :
    Guarded respond P Pre (p.handle f g) Last := by
  intro w before
  obtain ⟨calls,after⟩ := first w before
  rw [run_handle]
  refine ⟨everyCall_handle calls (fun a w' ran => ?_) (fun e w' ran => ?_),?_⟩
  · rw [ran] at after
    exact (onRet a w' after).1
  · rw [ran] at after
    exact (onRaise e w' after).1
  · rcases ran : run respond p w with ⟨e | a,w'⟩ <;> rw [ran] at after
    · exact (onRaise e w' after).2
    · exact (onRet a w' after).2

theorem guarded_bind {f : α → Prog E R ε β} (first : Guarded respond P Pre p Post)
    (rest : ∀ a, Guarded respond P (Post (.ok a)) (f a) Last) (raised : ∀ e w, Post (.error e) w → Last (.error e) w) :
    Guarded respond P Pre (p >>= f) Last := guarded_handle first rest fun e => guarded_raise (raised e)

theorem guarded_tryElse {catches : ε → Bool} {handler : ε → Prog E R ε β} {orElse : α → Prog E R ε β}
    (first : Guarded respond P Pre p Post) (onRaise : ∀ e, Guarded respond P (Post (.error e)) (handler e) Last)
    (onRet : ∀ a, Guarded respond P (Post (.ok a)) (orElse a) Last)
    (raised : ∀ e w, Post (.error e) w → Last (.error e) w) :
    Guarded respond P Pre (p.tryElse catches handler orElse) Last := by
  refine guarded_handle first onRet fun e => ?_
  split
  · exact onRaise e
  · exact guarded_raise (raised e)

theorem guarded_finallyDo {last : Prog E R ε Unit} (body : Guarded respond P Pre p Post)
    (final : ∀ r, Guarded respond P (Post r) last fun ended w => Post' (ended.bind fun _ => r) w) :
    Guarded respond P Pre (p.finallyDo last) Post' := by
  refine guarded_handle body (fun a => ?_) (fun e => ?_)
  · exact guarded_handle (final (.ok a)) (fun _ => guarded_ret fun _ holds => holds)
      (fun _ => guarded_raise fun _ holds => holds)
  · exact guarded_handle (final (.error e)) (fun _ => guarded_raise fun _ holds => holds)
      (fun _ => guarded_raise fun _ holds => holds)

theorem guarded_mono (guarded : Guarded respond P Pre p Post) (stronger : ∀ w, Pre' w → Pre w)
    (weaker : ∀ r w, Post r w → Post' r w) : Guarded respond P Pre' p Post' := by
  intro w before
  obtain ⟨calls,after⟩ := guarded w (stronger w before)
  exact ⟨calls,weaker _ _ after⟩

/-- What is known of every result is known of the result. -/
theorem guarded_returns {Q : α → Prop} (guarded : Guarded respond P Pre p Post) (results : Returns Q p) :
    Guarded respond P Pre p fun r w => Post r w ∧ ∀ a, r = .ok a → Q a := by
  intro w before
  obtain ⟨calls,after⟩ := guarded w before
  exact ⟨calls,after,fun _ ends => run_returns respond results w ends⟩

/-- What is known beforehand can be used. -/
theorem guarded_assuming {F : Prop} (guarded : F → Guarded respond P Pre p Post) :
    Guarded respond P (fun w => Pre w ∧ F) p Post := fun w before => guarded before.2 w before.1

/-- A program whose calls are as they should be while an invariant holds, and keep it. -/
theorem guarded_frame {bad : E → Prop} (same : ∀ w c, ¬ bad c → Pre w → P w c ∧ Pre (respond w c).2)
    (avoids : Avoids bad p) : Guarded respond P Pre p fun _ => Pre := by
  intro w before
  induction p generalizing w with
  | ret a => exact ⟨trivial,before⟩
  | raise e => exact ⟨trivial,before⟩
  | call c next ih =>
    obtain ⟨good,kept⟩ := same w c avoids.1 before
    obtain ⟨later,after⟩ := ih _ (avoids.2 _) _ kept
    exact ⟨⟨good,later⟩,after⟩

end

end MysqlOperators.Guards
