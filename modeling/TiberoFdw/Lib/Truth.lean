import Mathlib.Data.List.Basic

/-!
# Truth values of SQL

Three-valued logic as SQL's WHERE clause uses it: a comparison with NULL is
unknown, a conjunction is Kleene's, and a row is kept when the whole condition
is true, so that unknown rejects it just as false does.
-/

/-- A truth value; `none` is unknown. -/
abbrev Truth := Option Bool

namespace Truth

/-- Kleene's conjunction. -/
def and : Truth → Truth → Truth
  | some false, _ => some false
  | _, some false => some false
  | some true, some true => some true
  | _, _ => none

/-- The conjunction of a list of conditions. -/
def all : List Truth → Truth
  | [] => some true
  | t :: rest => and t (all rest)

/-- The row is kept. -/
def keeps (t : Truth) : Bool := t == some true

/-- Apply a two-valued comparison to nullable operands. -/
def lift {α : Type*} (compare : α → α → Bool) : Option α → Option α → Truth
  | some a, some b => some (compare a b)
  | _, _ => none

@[simp] theorem keeps_and (a b : Truth) : keeps (and a b) = (keeps a && keeps b) := by
  rcases a with _ | _ | _ <;> rcases b with _ | _ | _ <;> rfl

/-- When some conditions are unknown, the conjunction keeps nothing unless there
is none of them. -/
theorem keeps_all_unless {α : Type*} (unknown : α → Bool) (f : α → Truth) (l : List α) :
    keeps (all (l.map fun a => if unknown a then none else f a)) =
      (!l.any unknown && keeps (all (l.map f))) := by
  induction l with
  | nil => rfl
  | cons a rest ih =>
    rw [List.map_cons, all, keeps_and, ih, List.map_cons, all, keeps_and, List.any_cons]
    cases unknown a
    · simp only [Bool.false_eq_true, if_false, Bool.false_or]
      exact Bool.and_left_comm ..
    · rfl

end Truth
