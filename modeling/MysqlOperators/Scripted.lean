import MysqlOperators.Program

/-!
Worlds in which a script decides how each call ends. The script gives the answer
to every occurrence of every call; the rules of the world say what is left of an
answer that the world knows better, and what the call does to the world. Theorems
about every script are theorems about every outcome of every call.
-/
namespace MysqlOperators.Scripted
open MysqlOperators.Program MysqlOperators.Program.Prog

/-- The answer to the `n`-th occurrence of each call, and whether a call that
    raises has taken effect all the same. -/
structure Script (E : Type) (R : E → Type) (ε : Type) where
  reply : (c : E) → Nat → Except ε (R c)
  takesEffect : E → Nat → Bool

/-- How a world constrains the answers of a script and reacts to them. -/
structure Rules (W E : Type) (R : E → Type) (ε : Type) where
  answer : W → (c : E) → Except ε (R c) → Except ε (R c)
  effect : W → (c : E) → Except ε (R c) → Bool → W

/-- A world with the calls made so far. -/
structure Scene (W E : Type) where
  world : W
  log : List E

variable {W E : Type} {R : E → Type} {ε α : Type} [DecidableEq E]

def respond (rules : Rules W E R ε) (script : Script E R ε) (s : Scene W E) (c : E) :
    Except ε (R c) × Scene W E :=
  let n := s.log.count c
  let r := rules.answer s.world c (script.reply c n)
  (r,⟨rules.effect s.world c r (script.takesEffect c n),s.log ++ [c]⟩)

/-- Run a program from a world in which nothing has been called yet. -/
def play (rules : Rules W E R ε) (script : Script E R ε) (p : Prog E R ε α) (w : W) : Except ε α × Scene W E :=
  run (respond rules script) p ⟨w,[]⟩

@[simp] theorem count_append_single (log : List E) (c d : E) :
    (log ++ [d]).count c = log.count c + if d = c then 1 else 0 := by
  by_cases same : d = c <;> simp [List.count_append,same]

/-! ### Runs that return -/

section
variable (rules : Rules W E R ε) (script : Script E R ε)

/-- The scene after a call with a given answer. -/
def Scene.after (s : Scene W E) (rules : Rules W E R ε) (c : E) (r : Except ε (R c)) (happened : Bool) : Scene W E :=
  ⟨rules.effect s.world c r happened,s.log ++ [c]⟩

/-- From a scene with the first property, a run that returns ends with its result
    and its scene in the second one. -/
def Triple (P : Scene W E → Prop) (p : Prog E R ε α) (Q : α → Scene W E → Prop) : Prop :=
  ∀ s a s', P s → run (respond rules script) p s = (.ok a,s') → Q a s'

variable {rules script} {β : Type} {P P' : Scene W E → Prop} {Q Q' : α → Scene W E → Prop}
variable {T : β → Scene W E → Prop} {p : Prog E R ε α}

theorem triple_ret {a : α} (holds : ∀ s, P s → Q a s) : Triple rules script P (ret a) Q := by
  intro s b s' before ends
  cases ends
  exact holds _ before

theorem triple_raise (e : ε) : Triple rules script P (raise e) Q := by
  intro s a s' _ ends
  cases ends

theorem triple_perform {c : E} {Q : R c → Scene W E → Prop} (holds : ∀ s raw a happened, P s →
    rules.answer s.world c raw = .ok a → Q a (s.after rules c (.ok a) happened)) :
    Triple rules script P (Prog.perform c) Q := by
  intro s a s' before ends
  rw [run_perform] at ends
  have answered : rules.answer s.world c (script.reply c (s.log.count c)) = .ok a := congrArg Prod.fst ends
  have scene := congrArg Prod.snd ends
  simp only [respond,answered] at scene
  rw [← scene]
  exact holds _ _ _ _ before answered

theorem triple_bind {f : α → Prog E R ε β} (first : Triple rules script P p Q)
    (rest : ∀ a, Triple rules script (Q a) (f a) T) : Triple rules script P (p >>= f) T := by
  intro s b s' before ends
  rw [run_bind] at ends
  rcases h : run (respond rules script) p s with ⟨e | a,s₁⟩ <;> rw [h] at ends
  · cases ends
  · exact rest a s₁ b s' (first s a s₁ before h) ends

theorem triple_mono (triple : Triple rules script P p Q) (stronger : ∀ s, P' s → P s)
    (weaker : ∀ a s, Q a s → Q' a s) : Triple rules script P' p Q' :=
  fun s a s' before ends => weaker a _ (triple s a s' (stronger _ before) ends)

theorem triple_any (p : Prog E R ε α) : Triple rules script P p (fun _ _ => True) := fun _ _ _ _ _ => trivial

theorem triple_finallyDo {last : Prog E R ε Unit} (body : Triple rules script P p Q)
    (final : ∀ a, Triple rules script (Q a) last (fun _ => Q' a)) :
    Triple rules script P (p.finallyDo last) Q' := by
  intro s a s' before ends
  rw [Prog.finallyDo,run_handle] at ends
  rcases h : run (respond rules script) p s with ⟨e | b,s₁⟩ <;> rw [h] at ends
  · simp only [run_handle] at ends
    rcases h' : run (respond rules script) last s₁ with ⟨e' | u,s₂⟩ <;> rw [h'] at ends <;> cases ends
  · simp only [run_handle] at ends
    rcases h' : run (respond rules script) last s₁ with ⟨e' | u,s₂⟩ <;> rw [h'] at ends <;> cases ends
    exact final _ s₁ u _ (body s _ s₁ before h) h'

/-- Calls that cannot break a property keep it, however the run ends. -/
theorem run_frame {bad : E → Prop} (same : ∀ s c r happened, ¬ bad c → P s → P (s.after rules c r happened))
    {p : Prog E R ε α} (avoids : Avoids bad p) (s : Scene W E) (before : P s) :
    P (run (respond rules script) p s).2 := by
  induction p generalizing s with
  | ret b => exact before
  | raise e => exact before
  | call c next ih => exact ih _ (avoids.2 _) _ (same _ _ _ _ avoids.1 before)

theorem triple_frame {bad : E → Prop} (same : ∀ s c r happened, ¬ bad c → P s → P (s.after rules c r happened))
    (avoids : Avoids bad p) : Triple rules script P p (fun _ => P) := by
  intro s a s' before ends
  have kept : P (run (respond rules script) p s).2 := run_frame same avoids s before
  rw [ends] at kept
  exact kept

end

/-! ### Runs that may raise -/

section
variable (rules : Rules W E R ε) (script : Script E R ε)

/-- From a scene with the first property, every run ends with its outcome and its
    scene in the second one. -/
def Leads (P : Scene W E → Prop) (p : Prog E R ε α) (Q : Except ε α → Scene W E → Prop) : Prop :=
  ∀ s, P s → Q (run (respond rules script) p s).1 (run (respond rules script) p s).2

variable {rules script} {β : Type} {P P' : Scene W E → Prop} {p : Prog E R ε α}
variable {Q Q' : Except ε α → Scene W E → Prop} {T : Except ε β → Scene W E → Prop}

theorem leads_ret {a : α} (holds : ∀ s, P s → Q (.ok a) s) : Leads rules script P (ret a) Q := holds

theorem leads_raise {e : ε} (holds : ∀ s, P s → Q (.error e) s) : Leads rules script P (raise e) Q := holds

theorem leads_perform {c : E} {Q : Except ε (R c) → Scene W E → Prop} (holds : ∀ s n r happened, P s →
    r = rules.answer s.world c (script.reply c n) → Q r (s.after rules c r happened)) :
    Leads rules script P (Prog.perform c) Q := by
  intro s before
  rw [run_perform]
  exact holds s _ _ _ before rfl

theorem leads_handle {f : α → Prog E R ε β} {g : ε → Prog E R ε β} (first : Leads rules script P p Q)
    (onRet : ∀ a, Leads rules script (Q (.ok a)) (f a) T) (onRaise : ∀ e, Leads rules script (Q (.error e)) (g e) T) :
    Leads rules script P (p.handle f g) T := by
  intro s before
  have led := first s before
  rw [run_handle]
  rcases h : run (respond rules script) p s with ⟨e | a,s₁⟩ <;> rw [h] at led
  · exact onRaise e s₁ led
  · exact onRet a s₁ led

theorem leads_bind {f : α → Prog E R ε β} (first : Leads rules script P p Q)
    (rest : ∀ a, Leads rules script (Q (.ok a)) (f a) T) (raised : ∀ e s, Q (.error e) s → T (.error e) s) :
    Leads rules script P (p >>= f) T := leads_handle first rest (fun e => leads_raise (raised e))

/-- What is known before a run can be used to show where it leads. -/
theorem leads_assuming {F : Prop} (leads : F → Leads rules script P p Q) :
    Leads rules script (fun s => P s ∧ F) p Q := fun s before => leads before.2 s before.1

theorem leads_frame {bad : E → Prop} (same : ∀ s c r happened, ¬ bad c → P s → P (s.after rules c r happened))
    (avoids : Avoids bad p) : Leads rules script P p (fun _ => P) := fun s before => run_frame same avoids s before

end

section
variable (rules : Rules W E R ε) (script : Script E R ε)

/-- A quantity of the world that no call in a program changes. -/
theorem run_keeps {V : Type} (proj : W → V) {bad : E → Prop}
    (same : ∀ w c r b, ¬ bad c → proj (rules.effect w c r b) = proj w) {p : Prog E R ε α} (avoids : Avoids bad p)
    (s : Scene W E) : proj (run (respond rules script) p s).2.world = proj s.world :=
  run_avoids _ (fun s => proj s.world) (fun _ _ other => same _ _ _ _ other) avoids s

/-- A program makes none of the calls that it avoids. -/
theorem run_count_avoids {bad : E → Prop} {p : Prog E R ε α} (avoids : Avoids bad p) {c : E} (forbidden : bad c)
    (s : Scene W E) : (run (respond rules script) p s).2.log.count c = s.log.count c := by
  refine run_avoids _ (fun s => s.log.count c) (fun s d other => ?_) avoids s
  have different : d ≠ c := by rintro rfl; exact other forbidden
  simp [respond,different]

theorem run_log_avoids {bad : E → Prop} {p : Prog E R ε α} (avoids : Avoids bad p) {c : E} (forbidden : bad c)
    (s : Scene W E) : c ∈ (run (respond rules script) p s).2.log ↔ c ∈ s.log := by
  rw [← List.count_pos_iff,run_count_avoids rules script avoids forbidden s,List.count_pos_iff]

/-- How a run ends only depends on how often its own calls have been made before. -/
theorem run_agrees (blind : ∀ w w' c r, rules.answer w c r = rules.answer w' c r) {bad : E → Prop} {p : Prog E R ε α}
    (avoids : Avoids bad p) {s s' : Scene W E} (same : ∀ c, ¬ bad c → s.log.count c = s'.log.count c) :
    (run (respond rules script) p s).1 = (run (respond rules script) p s').1 := by
  induction p generalizing s s' with
  | ret a => rfl
  | raise e => rfl
  | call c next ih =>
    have answered : (respond rules script s c).1 = (respond rules script s' c).1 := by
      simp only [respond,same c avoids.1]
      exact blind _ _ _ _
    show (run (respond rules script) (next (respond rules script s c).1) (respond rules script s c).2).1 =
      (run (respond rules script) (next (respond rules script s' c).1) (respond rules script s' c).2).1
    rw [answered]
    refine ih _ (avoids.2 _) fun d other => ?_
    simp only [respond,count_append_single,same d other]

/-- What has been called stays in the log. -/
theorem run_log_grows (p : Prog E R ε α) (s : Scene W E) : s.log ⊆ (run (respond rules script) p s).2.log := by
  induction p generalizing s with
  | ret a => exact List.Subset.refl _
  | raise e => exact List.Subset.refl _
  | call c next ih =>
    intro d member
    exact ih _ _ (List.mem_append_left _ member)

theorem run_log_bind {β : Type} (p : Prog E R ε β) (f : β → Prog E R ε α) (s : Scene W E) :
    (run (respond rules script) p s).2.log ⊆ (run (respond rules script) (p >>= f) s).2.log := by
  rw [run_bind]
  rcases run (respond rules script) p s with ⟨e | b,s'⟩
  · exact List.Subset.refl _
  · exact run_log_grows rules script (f b) s'

/-- A list of different new calls succeeds exactly when each of them does. -/
theorem run_steps_ok_iff {calls : List E} (free : ∀ c ∈ calls, ∀ w r, rules.answer w c r = r)
    (distinct : calls.Nodup) (s : Scene W E) (new : ∀ c ∈ calls, s.log.count c = 0) :
    (run (respond rules script) (Prog.steps calls) s).1 = .ok () ↔ ∀ c ∈ calls, ∃ a, script.reply c 0 = .ok a := by
  induction calls generalizing s with
  | nil => simp [Prog.steps]
  | cons c rest ih =>
    have first : (respond rules script s c).1 = script.reply c 0 := by
      simp only [respond,new c (by simp)]
      exact free c (by simp) _ _
    obtain ⟨other,distinct⟩ := List.nodup_cons.mp distinct
    rw [Prog.steps,run_bind,run_perform]
    rcases h : respond rules script s c with ⟨e | a,s'⟩
    · have failed : script.reply c 0 = .error e := by rw [← first,h]
      simp [failed]
    · have done : script.reply c 0 = .ok a := by rw [← first,h]
      have log : s'.log = s.log ++ [c] := by
        have := congrArg (fun x => x.2.log) h
        simpa [respond] using this.symm
      have later : ∀ d ∈ rest, s'.log.count d = 0 := by
        intro d member
        have different : c ≠ d := by rintro rfl; exact other member
        simp [log,new d (by simp [member]),different]
      simp only [ih (fun d member => free d (by simp [member])) distinct s' later,List.forall_mem_cons,done,
        Except.ok.injEq,exists_eq',true_and]

/-- A list of calls that succeeds brings about what one of them does and none of
    them undoes. -/
theorem run_steps_establishes {P : W → Prop} {calls : List E} {c : E} (member : c ∈ calls)
    (sets : ∀ w a b, P (rules.effect w c (.ok a) b)) (keeps : ∀ w d r b, P w → P (rules.effect w d r b))
    (s : Scene W E) (done : (run (respond rules script) (Prog.steps calls) s).1 = .ok ()) :
    P (run (respond rules script) (Prog.steps calls) s).2.world := by
  have kept : ∀ (l : List E) (s : Scene W E), P s.world →
      P (run (respond rules script) (Prog.steps l) s).2.world := by
    intro l
    induction l with
    | nil => exact fun _ holds => holds
    | cons d rest ih =>
      intro s holds
      have next : P (respond rules script s d).2.world := keeps _ _ _ _ holds
      rw [Prog.steps,run_bind,run_perform]
      rcases h : respond rules script s d with ⟨_ | _,s'⟩ <;> rw [h] at next
      · exact next
      · exact ih s' next
  induction calls generalizing s with
  | nil => cases member
  | cons d rest ih =>
    rw [Prog.steps,run_bind,run_perform] at done ⊢
    rcases h : respond rules script s d with ⟨e | a,s'⟩
    · simp [h] at done
    · simp only [h] at done ⊢
      rcases List.mem_cons.mp member with rfl | later
      · refine kept rest s' ?_
        have answered : rules.answer s.world c (script.reply c (s.log.count c)) = .ok a := congrArg Prod.fst h
        have world : s'.world = rules.effect s.world c (.ok a) (script.takesEffect c (s.log.count c)) := by
          rw [← answered]
          exact (congrArg (fun x => x.2.world) h).symm
        exact world ▸ sets _ _ _
      · exact ih later s' done

end

end MysqlOperators.Scripted
