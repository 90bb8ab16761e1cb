import Mathlib.Data.List.Infix

/-!
Trees of files. A path is a word in which a separator stands between the names, and a tree
tells what there is at each path; a directory is known by the paths that go on from it.
-/
namespace MysqlOperators.FileTrees
universe u v

variable {α : Type u} {β : Type v}

/-- What there is at each path. -/
abbrev Tree (α : Type u) (β : Type v) := List α → Option β

/-- A path goes on from a directory. -/
def Under (separator : α) (directory path : List α) : Prop := directory ++ [separator] <+: path

/-- The directory itself, or what is under it. -/
def Within (separator : α) (directory path : List α) : Prop := path = directory ∨ Under separator directory path

instance [DecidableEq α] (separator : α) (directory path : List α) : Decidable (Under separator directory path) :=
  inferInstanceAs (Decidable (_ <+: _))

instance [DecidableEq α] (separator : α) (directory path : List α) : Decidable (Within separator directory path) :=
  inferInstanceAs (Decidable (_ ∨ _))

variable {separator : α} {directory inner path name name' : List α}

theorem under_child (separator : α) (directory name : List α) :
    Under separator directory (directory ++ separator :: name) :=
  ⟨name,by simp⟩

theorem under_of_within (outer : Under separator directory inner) (within : Within separator inner path) :
    Under separator directory path := by
  rcases within with rfl | under
  · exact outer
  · exact (outer.trans (List.prefix_append inner [separator])).trans under

/-- A name ends at the separator. -/
theorem name_ends {rest : List α} (plain : separator ∉ name) (plain' : separator ∉ name')
    (starts : name ++ [separator] <+: name' ++ separator :: rest) : name = name' := by
  induction name generalizing name' with
  | nil =>
    cases name' with
    | nil => rfl
    | cons a rest' =>
      obtain ⟨_,same⟩ := starts
      obtain ⟨rfl,_⟩ := List.cons.inj same
      exact absurd (List.mem_cons_self ..) plain'
  | cons a more ih =>
    cases name' with
    | nil =>
      obtain ⟨_,same⟩ := starts
      obtain ⟨rfl,_⟩ := List.cons.inj same
      exact absurd (List.mem_cons_self ..) plain
    | cons b more' =>
      obtain ⟨rfl,later⟩ := List.cons_prefix_cons.mp starts
      rw [ih (fun member => plain (List.mem_cons_of_mem _ member))
        (fun member => plain' (List.mem_cons_of_mem _ member)) later]

/-- No path is in two directories side by side. -/
theorem not_within_sibling (plain : separator ∉ name) (plain' : separator ∉ name') (differ : name ≠ name')
    (under : Under separator (directory ++ separator :: name) path) :
    ¬ Within separator (directory ++ separator :: name') path := by
  obtain ⟨rest,rfl⟩ := under
  rintro (same | under')
  · have texts : name ++ separator :: rest = name' := by simpa using same
    exact plain' (texts ▸ by simp)
  · have starts : name' ++ [separator] <+: name ++ separator :: rest := by
      have cut : (directory ++ [separator]) ++ (name' ++ [separator]) <+:
          (directory ++ [separator]) ++ (name ++ separator :: rest) := by simpa [Under] using under'
      exact (List.prefix_append_right_inj _).mp cut
    exact differ (name_ends plain' plain starts).symm

end MysqlOperators.FileTrees
