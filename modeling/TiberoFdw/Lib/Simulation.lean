import TiberoFdw.Lib.Proc

/-!
# Two procedures side by side

Two procedures over states of their own, related step by step. `Refines R Q m n`: from related
states both return, with related values, or both leave by the same error, and the states are
related again. The rules follow the ways a procedure is built; `Refines.fold` carries a step to
whole runs.
-/

universe u v w x y

/-- The two runs end the same way, with values in `Q` and states in `R`. -/
def Outcome.Agree {σ : Type u} {τ : Type v} {ε : Type w} {α : Type x} {β : Type y}
    (R : σ → τ → Prop) (Q : α → β → Prop) : Outcome σ ε α → Outcome τ ε β → Prop
  | .ok a s, .ok b t => Q a b ∧ R s t
  | .raise e s, .raise e' t => e = e' ∧ R s t
  | _, _ => False

theorem Outcome.Agree.imp {σ : Type u} {τ : Type v} {ε : Type w} {α : Type x} {β : Type y}
    {R R' : σ → τ → Prop} {Q Q' : α → β → Prop} {o : Outcome σ ε α} {o' : Outcome τ ε β}
    (h : o.Agree R Q o') (hQ : ∀ a b, Q a b → Q' a b) (hR : ∀ s t, R s t → R' s t) :
    o.Agree R' Q' o' := by
  rcases o with ⟨a, s⟩ | ⟨e, s⟩ <;> rcases o' with ⟨b, t⟩ | ⟨e', t⟩
  · exact ⟨hQ a b h.1, hR s t h.2⟩
  · exact h.elim
  · exact h.elim
  · exact ⟨h.1, hR s t h.2⟩

namespace Proc

variable {σ : Type u} {τ : Type v} {ε : Type w} {α γ : Type x} {β δ : Type y} {ι : Type*}

/-- The two procedures do the same, on states related by `R`. -/
def Refines (R : σ → τ → Prop) (Q : α → β → Prop) (m : Proc σ ε α) (n : Proc τ ε β) : Prop :=
  ∀ s t, R s t → (m s).Agree R Q (n t)

namespace Refines

variable {R : σ → τ → Prop} {Q : α → β → Prop} {Q₁ : γ → δ → Prop}

theorem pure {a : α} {b : β} (h : Q a b) :
    Refines R Q (Pure.pure a : Proc σ ε α) (Pure.pure b : Proc τ ε β) :=
  fun _ _ hR => ⟨h, hR⟩

theorem raise (e : ε) : Refines R Q (Proc.raise e) (Proc.raise e) := fun _ _ hR => ⟨rfl, hR⟩

theorem modify {f : σ → σ} {g : τ → τ} (h : ∀ s t, R s t → R (f s) (g t)) :
    Refines R (fun _ _ => True) (Proc.modify f : Proc σ ε PUnit.{x + 1})
      (Proc.modify g : Proc τ ε PUnit.{y + 1}) :=
  fun s t hR => ⟨trivial, h s t hR⟩

/-- Both read their state. -/
theorem read_bind {σ : Type x} {τ : Type y} {R : σ → τ → Prop} {f : σ → Proc σ ε γ}
    {g : τ → Proc τ ε δ} (h : ∀ s t, R s t → (f s s).Agree R Q₁ (g t t)) :
    Refines R Q₁ (Proc.read >>= f) (Proc.read >>= g) := h

/-- Sequencing. -/
theorem bind {m : Proc σ ε α} {n : Proc τ ε β} {f : α → Proc σ ε γ} {g : β → Proc τ ε δ}
    (hm : Refines R Q m n) (hf : ∀ a b, Q a b → Refines R Q₁ (f a) (g b)) :
    Refines R Q₁ (m >>= f) (n >>= g) := by
  intro s t hR
  have h := hm s t hR
  rcases hs : m s with ⟨a, s₁⟩ | ⟨e, s₁⟩ <;> rcases ht : n t with ⟨b, t₁⟩ | ⟨e', t₁⟩ <;>
    rw [hs, ht] at h
  · rw [bind_of_ok hs, bind_of_ok ht]
    exact hf a b h.1 s₁ t₁ h.2
  · exact h.elim
  · exact h.elim
  · rw [bind_of_raise hs, bind_of_raise ht]
    exact h

theorem when {condition : Bool} {m : Proc σ ε PUnit.{x + 1}} {n : Proc τ ε PUnit.{y + 1}}
    (hm : Refines R (fun _ _ => True) m n) :
    Refines R (fun _ _ => True) (Proc.when condition m) (Proc.when condition n) := by
  cases condition
  · exact Refines.pure trivial
  · exact hm

/-- **The run rule**: when each step of one run refines that of the other, the whole run does. -/
theorem fold {body : ι → α → Proc σ ε α} {body' : ι → β → Proc τ ε β}
    (hbody : ∀ i a b, Q a b → Refines R Q (body i a) (body' i b)) {a : α} {b : β} (h : Q a b)
    (l : List ι) : Refines R Q (Proc.fold body l a) (Proc.fold body' l b) := by
  induction l generalizing a b with
  | nil => exact Refines.pure h
  | cons i rest ih => exact (hbody i a b h).bind fun a' b' h' => ih h'

end Refines

end Proc
