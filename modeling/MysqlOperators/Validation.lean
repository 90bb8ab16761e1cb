import Mathlib.Logic.Basic

/-!
Validation that collects its errors. The fields of a record are checked one after the
other: the errors of all fields are put together, but an exception ends the validation
where it is raised.
-/
namespace MysqlOperators

variable {ε σ α β : Type}

inductive Validation (ε σ α : Type) where
  | valid (value : α)
  | invalid (errors : List ε)
  | raised (exception : σ)
deriving DecidableEq, Repr

namespace Validation

def map (f : α → β) : Validation ε σ α → Validation ε σ β
  | valid value => valid (f value)
  | invalid errors => invalid errors
  | raised e => raised e

/-- The field behind those that have been checked. -/
def next : Validation ε σ (α → β) → Validation ε σ α → Validation ε σ β
  | raised e, _ => raised e
  | _, raised e => raised e
  | valid f, valid value => valid (f value)
  | valid _, invalid errors => invalid errors
  | invalid errors, valid _ => invalid errors
  | invalid errors, invalid more => invalid (errors ++ more)

instance : Applicative (Validation ε σ) where
  pure := valid
  map := map
  seq checked field := next checked (field ())

def isValid : Validation ε σ α → Bool
  | valid _ => true
  | _ => false

def isInvalid : Validation ε σ α → Bool
  | invalid _ => true
  | _ => false

def isRaised : Validation ε σ α → Bool
  | raised _ => true
  | _ => false

variable {x : Validation ε σ α}

@[simp] theorem isValid_map (f : α → β) (x : Validation ε σ α) : (f <$> x).isValid = x.isValid := by
  cases x <;> rfl

@[simp] theorem isRaised_map (f : α → β) (x : Validation ε σ α) : (f <$> x).isRaised = x.isRaised := by
  cases x <;> rfl

@[simp] theorem isValid_seq (f : Validation ε σ (α → β)) (x : Validation ε σ α) :
    (f <*> x).isValid = (f.isValid && x.isValid) := by
  cases f <;> cases x <;> rfl

@[simp] theorem isRaised_seq (f : Validation ε σ (α → β)) (x : Validation ε σ α) :
    (f <*> x).isRaised = (f.isRaised || x.isRaised) := by
  cases f <;> cases x <;> rfl

theorem isInvalid_iff : x.isInvalid = true ↔ x.isValid = false ∧ x.isRaised = false := by
  cases x <;> simp [isInvalid,isValid,isRaised]

theorem isValid_iff : x.isValid = true ↔ ∃ value, x = valid value := by
  cases x <;> simp [isValid]

theorem not_raised (passes : x.isValid = true) : x.isRaised = false := by
  obtain ⟨value,rfl⟩ := isValid_iff.mp passes
  rfl

/-- A record is built from the values of its fields. -/
theorem map_eq_valid {f : α → β} {value : β} :
    f <$> x = valid value ↔ ∃ a, x = valid a ∧ f a = value := by
  cases x <;> simp [Functor.map,map]

theorem seq_eq_valid {f : Validation ε σ (α → β)} {value : β} :
    f <*> x = valid value ↔ ∃ g a, f = valid g ∧ x = valid a ∧ g a = value := by
  cases f <;> cases x <;> simp [Seq.seq,next]

theorem pure_eq_valid {a value : α} : (pure a : Validation ε σ α) = valid value ↔ a = value := by
  simp [pure]

end Validation

end MysqlOperators
