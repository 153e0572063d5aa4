import TiberoFdw.Lib.Terms

/-!
# The meaning of terms, and selections on two sides

* `Term.eval` — the value of a term, from those of its operands and the meaning of the names of
  operators;
* `select_split` — a selection that is made partly before the rows are fetched and partly
  after it, on rows that were not fetched completely, has the result of the selection that is
  made afterwards on complete rows, as long as both parts decide together like the whole one
  and what is made of a row in the end needs what was fetched only.
-/

namespace Terms

variable {α ν : Type}

/-- What operands and operators mean. -/
structure Interpretation (α ν : Type) where
  operand : α → ν
  unary : List Char → ν → ν
  binary : List Char → ν → ν → ν

/-- The value of a term. -/
def Term.eval (i : Interpretation α ν) : Term α → ν
  | operand a => i.operand a
  | unary op arg => i.unary op (arg.eval i)
  | binary op lhs rhs => i.binary op (lhs.eval i) (rhs.eval i)

/-- **A selection on two sides.** -/
theorem select_split {ρ τ β : Type} {rows : List ρ} {before : ρ → Bool} {fetched complete : ρ → τ}
    {after whole : τ → Bool} {output : τ → β}
    (hdecide : ∀ row ∈ rows, (before row && after (fetched row)) = whole (complete row))
    (houtput : ∀ row ∈ rows, output (fetched row) = output (complete row)) :
    ((((rows.filter before).map fetched).filter after).map output) =
      (((rows.map complete).filter whole).map output) := by
  induction rows with
  | nil => rfl
  | cons row rest ih =>
    have hrest := ih (fun r hr => hdecide r (List.mem_cons_of_mem _ hr))
      fun r hr => houtput r (List.mem_cons_of_mem _ hr)
    have hrow := hdecide row (List.mem_cons_self ..)
    have hout := houtput row (List.mem_cons_self ..)
    rw [List.map_cons, List.filter_cons, List.filter_cons, ← hrow]
    rcases hbefore : before row with _ | _
    · rw [if_neg (by decide), Bool.false_and, if_neg (by decide), hrest]
    · rw [if_pos rfl, List.map_cons, List.filter_cons, Bool.true_and]
      split_ifs
      · rw [List.map_cons, List.map_cons, hout, hrest]
      · exact hrest

end Terms
