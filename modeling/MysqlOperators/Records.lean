import MysqlOperators.Mappings
import Mathlib.Logic.Function.Basic

/-!
Records whose fields are kept as texts in a dictionary, each under a key of its own.
What a reader sees of a field depends on the text under its key alone.
-/
namespace MysqlOperators.Records
open Function (update update_self update_of_ne)

structure Schema where
  Field : Type
  decidable : DecidableEq Field
  Seen : Field → Type
  key : Field → String
  read : (f : Field) → Option String → Seen f
  distinct : Function.Injective key

namespace Schema
variable (s : Schema)

instance decidableField : DecidableEq s.Field := s.decidable

/-- What is seen of each field. -/
abbrev Record := (f : s.Field) → s.Seen f

def view (data : Mapping String String) : s.Record := fun f => s.read f (data.get (s.key f))

/-- A new text for a field, or none for one that is removed. -/
structure Write where
  field : s.Field
  text : Option String

variable {s}

def Write.apply (w : s.Write) (data : Mapping String String) : Mapping String String :=
  match w.text with
  | none => data.erase (s.key w.field)
  | some text => data.set (s.key w.field) text

theorem Write.get_apply (w : s.Write) (data : Mapping String String) (key : String) :
    (w.apply data).get key = if key = s.key w.field then w.text else data.get key := by
  obtain ⟨field,text⟩ := w
  cases text with
  | none => exact data.get_erase (s.key field) key
  | some text => exact data.get_set (s.key field) text key

/-- A write changes the one field, and no other. -/
theorem Write.view_apply (w : s.Write) (data : Mapping String String) :
    s.view (w.apply data) = update (s.view data) w.field (s.read w.field w.text) := by
  funext f
  by_cases same : f = w.field
  · subst same
    rw [update_self,view,w.get_apply,if_pos rfl]
  · rw [update_of_ne same,view,w.get_apply,if_neg (fun keys => same (s.distinct keys)),view]

end Schema

/-- The keys that end in a text are no others. -/
theorem append_ne {ending other : String} (plain : ¬ ending.toList <:+ other.toList) (front : String) :
    front ++ ending ≠ other := by
  rintro rfl
  exact plain (by rw [String.toList_append]; exact List.suffix_append _ _)

end MysqlOperators.Records
