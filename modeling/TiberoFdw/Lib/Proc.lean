import Mathlib.Data.List.Basic

/-!
# Procedures with a state and an error exit

A procedure runs from a state and comes back either normally, with a value, or
by a non-local exit, with an error. The state survives **both** exits: what was
written before an error stays written, as it does when a C function leaves by a
long jump. Three layers:

* `Outcome` / `Proc` — the outcome of a run and the monad of procedures;
* inversion (`bind_eq_ok`, `bind_eq_raise`) and evaluation (`bind_of_ok`,
  `bind_of_raise`) for sequencing, and the loop `forEach`;
* `Triple` — pre- and postconditions with a separate postcondition for the
  error exit, and the rules to derive them.
-/

universe u v w

/-- How a run ends: normally with a value, or with an error. The state it leaves
behind is there in both cases. -/
inductive Outcome (σ : Type u) (ε : Type v) (α : Type w) : Type (max u v w) where
  /-- normal return -/
  | ok (val : α) (next : σ)
  /-- non-local exit -/
  | raise (err : ε) (next : σ)

namespace Outcome

variable {σ : Type u} {ε : Type v} {α : Type w}

/-- The state a run leaves behind. -/
def next : Outcome σ ε α → σ
  | ok _ s => s
  | raise _ s => s

/-- The run returned normally. -/
def isOk : Outcome σ ε α → Bool
  | ok _ _ => true
  | raise _ _ => false

/-- The result of a run, without the state. -/
def toExcept : Outcome σ ε α → Except ε α
  | ok a _ => .ok a
  | raise e _ => .error e

/-- The run returned normally, and its value and state pass a test. -/
def okAnd (p : α → σ → Bool) : Outcome σ ε α → Bool
  | ok a s => p a s
  | raise _ _ => false

@[simp] theorem next_ok (a : α) (s : σ) : (ok a s : Outcome σ ε α).next = s := rfl

@[simp] theorem next_raise (e : ε) (s : σ) : (raise e s : Outcome σ ε α).next = s := rfl

@[simp] theorem isOk_ok (a : α) (s : σ) : (ok a s : Outcome σ ε α).isOk = true := rfl

@[simp] theorem isOk_raise (e : ε) (s : σ) : (raise e s : Outcome σ ε α).isOk = false := rfl

theorem eq_ok_of_isOk {o : Outcome σ ε α} (h : o.isOk = true) : ∃ a, o = ok a o.next := by
  rcases o with ⟨a, s⟩ | ⟨e, s⟩
  · exact ⟨a, rfl⟩
  · cases h

theorem exists_of_okAnd {o : Outcome σ ε α} {p : α → σ → Bool} (h : o.okAnd p = true) :
    ∃ a s, o = ok a s ∧ p a s = true := by
  rcases o with ⟨a, s⟩ | ⟨e, s⟩
  · exact ⟨a, s, rfl, h⟩
  · cases h

end Outcome

/-- A procedure over states `σ` that may exit with an error in `ε`. -/
def Proc (σ : Type u) (ε : Type v) (α : Type w) : Type (max u v w) := σ → Outcome σ ε α

namespace Proc

variable {σ : Type u} {ε : Type v} {α β γ : Type w} {ι : Type*}

/-- Return a value, leaving the state alone. -/
protected def pure (a : α) : Proc σ ε α := fun s => .ok a s

/-- Sequencing: an error skips the continuation and keeps the state it left. -/
protected def bind (m : Proc σ ε α) (f : α → Proc σ ε β) : Proc σ ε β := fun s =>
  match m s with
  | .ok a s₁ => f a s₁
  | .raise e s₁ => .raise e s₁

instance : Monad (Proc σ ε) where
  pure := Proc.pure
  bind := Proc.bind

/-- Read the state. -/
def read {σ : Type w} : Proc σ ε σ := fun s => .ok s s

/-- Update the state. -/
def modify (f : σ → σ) : Proc σ ε PUnit.{w + 1} := fun s => .ok ⟨⟩ (f s)

/-- Leave by an error. -/
def raise (e : ε) : Proc σ ε α := fun s => .raise e s

/-- Return a result that is there already, or leave by its error. -/
def ofExcept : Except ε α → Proc σ ε α
  | .ok a => fun s => .ok a s
  | .error e => raise e

/-- The same run, with the errors of another kind. -/
def mapError {ε' : Type v} (f : ε → ε') (m : Proc σ ε α) : Proc σ ε' α := fun s =>
  match m s with
  | .ok a s₁ => .ok a s₁
  | .raise e s₁ => .raise (f e) s₁

/-- Run `m`; if it leaves by an error, continue with the handler from the state
`m` left behind. Nothing is rolled back. -/
def onError (m : Proc σ ε α) (handler : ε → Proc σ ε α) : Proc σ ε α := fun s =>
  match m s with
  | .ok a s₁ => .ok a s₁
  | .raise e s₁ => handler e s₁

/-- Run a step only when the condition holds. -/
def when (condition : Bool) (m : Proc σ ε PUnit.{w + 1}) : Proc σ ε PUnit.{w + 1} :=
  if condition then m else pure ⟨⟩

/-- Run the body for each element in order; an error ends the loop. -/
def forEach (l : List ι) (body : ι → Proc σ ε PUnit.{w + 1}) : Proc σ ε PUnit.{w + 1} :=
  match l with
  | [] => pure ⟨⟩
  | i :: rest => body i >>= fun _ => forEach rest body

/-! ## Evaluation -/

@[simp] theorem pure_run (a : α) (s : σ) : (pure a : Proc σ ε α) s = .ok a s := rfl

@[simp] theorem modify_run (f : σ → σ) (s : σ) :
    (modify f : Proc σ ε PUnit.{w + 1}) s = .ok ⟨⟩ (f s) := rfl

theorem bind_of_ok {m : Proc σ ε α} {f : α → Proc σ ε β} {s s₁ : σ} {a : α}
    (hm : m s = .ok a s₁) : (m >>= f) s = f a s₁ := by
  change Proc.bind m f s = f a s₁
  rw [Proc.bind, hm]

theorem bind_of_raise {m : Proc σ ε α} {f : α → Proc σ ε β} {s s₁ : σ} {e : ε}
    (hm : m s = .raise e s₁) : (m >>= f) s = .raise e s₁ := by
  change Proc.bind m f s = .raise e s₁
  rw [Proc.bind, hm]

@[simp] theorem pure_bind_run (a : α) (f : α → Proc σ ε β) (s : σ) :
    ((pure a : Proc σ ε α) >>= f) s = f a s := rfl

@[simp] theorem modify_bind_run (g : σ → σ) (f : PUnit.{w + 1} → Proc σ ε β) (s : σ) :
    ((modify g : Proc σ ε PUnit.{w + 1}) >>= f) s = f ⟨⟩ (g s) := rfl

@[simp] theorem read_bind_run {σ : Type w} (f : σ → Proc σ ε β) (s : σ) :
    ((read : Proc σ ε σ) >>= f) s = f s s := rfl

/-- What is made of the result leaves the state alone. -/
@[simp] theorem bind_pure_next (m : Proc σ ε α) (f : α → β) (s : σ) :
    ((m >>= fun a => pure (f a)) s).next = (m s).next := by
  rcases hm : m s with ⟨a, s₁⟩ | ⟨e, s₁⟩
  · rw [bind_of_ok hm]
    rfl
  · rw [bind_of_raise hm]
    rfl

theorem bind_assoc_run (m : Proc σ ε α) (f : α → Proc σ ε β) (g : β → Proc σ ε γ) (s : σ) :
    ((m >>= f) >>= g) s = (m >>= fun a => f a >>= g) s := by
  rcases hm : m s with ⟨a, s₁⟩ | ⟨e, s₁⟩
  · rw [bind_of_ok hm]
    change Proc.bind (Proc.bind m f) g s = Proc.bind (f a) g s₁
    simp only [Proc.bind, hm]
  · rw [bind_of_raise hm]
    exact bind_of_raise (bind_of_raise hm)

theorem onError_of_ok {m : Proc σ ε α} {handler : ε → Proc σ ε α} {s s₁ : σ} {a : α}
    (hm : m s = .ok a s₁) : m.onError handler s = .ok a s₁ := by
  rw [onError, hm]

theorem onError_of_raise {m : Proc σ ε α} {handler : ε → Proc σ ε α} {s s₁ : σ} {e : ε}
    (hm : m s = .raise e s₁) : m.onError handler s = handler e s₁ := by
  rw [onError, hm]

@[simp] theorem when_true (m : Proc σ ε PUnit.{w + 1}) : when true m = m := rfl

@[simp] theorem when_false (m : Proc σ ε PUnit.{w + 1}) : when false m = pure ⟨⟩ := rfl

@[simp] theorem forEach_cons (i : ι) (l : List ι) (body : ι → Proc σ ε PUnit.{w + 1}) :
    forEach (i :: l) body = body i >>= fun _ => forEach l body := rfl

/-! ## Inversion -/

/-- A sequence returns exactly when both parts do. -/
theorem bind_eq_ok {m : Proc σ ε α} {f : α → Proc σ ε β} {s s' : σ} {b : β} :
    (m >>= f) s = .ok b s' ↔ ∃ a s₁, m s = .ok a s₁ ∧ f a s₁ = .ok b s' := by
  rcases hm : m s with ⟨a, s₁⟩ | ⟨e, s₁⟩
  · rw [bind_of_ok hm]
    refine ⟨fun h => ⟨a, s₁, rfl, h⟩, ?_⟩
    rintro ⟨a', s₁', he, h⟩
    cases he
    exact h
  · rw [bind_of_raise hm]
    simp

/-- A sequence leaves by an error when one of the two parts does. -/
theorem bind_eq_raise {m : Proc σ ε α} {f : α → Proc σ ε β} {s s' : σ} {e : ε} :
    (m >>= f) s = .raise e s' ↔
      m s = .raise e s' ∨ ∃ a s₁, m s = .ok a s₁ ∧ f a s₁ = .raise e s' := by
  rcases hm : m s with ⟨a, s₁⟩ | ⟨e₁, s₁⟩
  · rw [bind_of_ok hm]
    refine ⟨fun h => .inr ⟨a, s₁, rfl, h⟩, ?_⟩
    rintro (he | ⟨a', s₁', he, h⟩)
    · cases he
    · cases he
      exact h
  · rw [bind_of_raise hm]
    constructor
    · intro he
      cases he
      exact .inl rfl
    · rintro (he | ⟨a', s₁', he, -⟩)
      · cases he
        rfl
      · cases he

/-! ## Pre- and postconditions -/

/-- From a state in `P`, the procedure either returns in `Q` or leaves by an
error in `E`. -/
def Triple (P : σ → Prop) (m : Proc σ ε α) (Q : α → σ → Prop) (E : ε → σ → Prop) : Prop :=
  ∀ s, P s →
    match m s with
    | .ok a s' => Q a s'
    | .raise e s' => E e s'

namespace Triple

variable {P P' : σ → Prop} {Q Q' : α → σ → Prop} {R : β → σ → Prop} {E E' : ε → σ → Prop}

theorem apply_ok {m : Proc σ ε α} (ht : Triple P m Q E) {s s' : σ} {a : α} (hs : P s)
    (hm : m s = .ok a s') : Q a s' := by
  have h := ht s hs
  rw [hm] at h
  exact h

theorem apply_raise {m : Proc σ ε α} (ht : Triple P m Q E) {s s' : σ} {e : ε} (hs : P s)
    (hm : m s = .raise e s') : E e s' := by
  have h := ht s hs
  rw [hm] at h
  exact h

/-- The rule of consequence. -/
theorem weaken {m : Proc σ ε α} (ht : Triple P m Q E) (hP : ∀ s, P' s → P s)
    (hQ : ∀ a s, Q a s → Q' a s) (hE : ∀ e s, E e s → E' e s) : Triple P' m Q' E' := by
  intro s hs
  have h := ht s (hP s hs)
  rcases hm : m s with ⟨a, s'⟩ | ⟨e, s'⟩ <;> rw [hm] at h
  · exact hQ a s' h
  · exact hE e s' h

theorem strengthen_pre {m : Proc σ ε α} (ht : Triple P m Q E) (hP : ∀ s, P' s → P s) :
    Triple P' m Q E :=
  ht.weaken hP (fun _ _ h => h) fun _ _ h => h

/-- Both exits at once. -/
theorem of_next {m : Proc σ ε α} {I : σ → Prop} (h : ∀ s, P s → I (m s).next) :
    Triple P m (fun _ => I) (fun _ => I) := by
  intro s hs
  have hnext := h s hs
  rcases hm : m s with ⟨a, s'⟩ | ⟨e, s'⟩ <;> rw [hm] at hnext <;> exact hnext

/-- What is known of the result itself. -/
theorem returned {m : Proc σ ε α} (ht : Triple P m Q E) {p : α → Prop}
    (hp : ∀ a s s', m s = .ok a s' → p a) : Triple P m (fun a s => p a ∧ Q a s) E := by
  intro s hs
  have h := ht s hs
  rcases hm : m s with ⟨a, s'⟩ | ⟨e, s'⟩ <;> rw [hm] at h
  · exact ⟨hp a s s' hm, h⟩
  · exact h

theorem pure {a : α} (h : ∀ s, P s → Q a s) : Triple P (Pure.pure a : Proc σ ε α) Q E :=
  fun s hs => h s hs

theorem raise {e : ε} (h : ∀ s, P s → E e s) : Triple P (Proc.raise e : Proc σ ε α) Q E :=
  fun s hs => h s hs

theorem modify {f : σ → σ} {Q : PUnit.{w + 1} → σ → Prop} (h : ∀ s, P s → Q ⟨⟩ (f s)) :
    Triple P (Proc.modify f : Proc σ ε PUnit.{w + 1}) Q E :=
  fun s hs => h s hs

/-- Reading the state: the continuation may assume that it sees the state it
runs from. -/
theorem read_bind {σ : Type w} {P : σ → Prop} {R : β → σ → Prop} {E : ε → σ → Prop}
    {f : σ → Proc σ ε β} (h : ∀ s₀, Triple (fun s => P s ∧ s = s₀) (f s₀) R E) :
    Triple P (Proc.read >>= f) R E :=
  fun s hs => h s s ⟨hs, rfl⟩

/-- Reading the state, when it does not matter which state is seen. -/
theorem look {σ : Type w} {P : σ → Prop} {R : β → σ → Prop} {E : ε → σ → Prop}
    {f : σ → Proc σ ε β} (h : ∀ s₀, Triple P (f s₀) R E) : Triple P (Proc.read >>= f) R E :=
  fun s hs => h s s hs

/-- Sequencing. -/
theorem bind {m : Proc σ ε α} {f : α → Proc σ ε β} (hm : Triple P m Q E)
    (hf : ∀ a, Triple (Q a) (f a) R E) : Triple P (m >>= f) R E := by
  intro s hs
  have h := hm s hs
  rcases hr : m s with ⟨a, s₁⟩ | ⟨e, s₁⟩ <;> rw [hr] at h
  · rw [bind_of_ok hr]
    exact hf a s₁ h
  · rw [bind_of_raise hr]
    exact h

/-- Catching errors. -/
theorem onError {m : Proc σ ε α} {handler : ε → Proc σ ε α} (hm : Triple P m Q E')
    (hh : ∀ e, Triple (E' e) (handler e) Q E) : Triple P (m.onError handler) Q E := by
  intro s hs
  have h := hm s hs
  rcases hr : m s with ⟨a, s₁⟩ | ⟨e, s₁⟩ <;> rw [hr] at h
  · rw [onError_of_ok hr]
    exact h
  · rw [onError_of_raise hr]
    exact hh e s₁ h

theorem ofExcept {r : Except ε α} (hok : ∀ a s, P s → Q a s) (herror : ∀ e s, P s → E e s) :
    Triple P (Proc.ofExcept r) Q E := by
  rcases r with e | a
  · exact fun s hs => herror e s hs
  · exact fun s hs => hok a s hs

theorem mapError {ε' : Type v} {E' : ε' → σ → Prop} {f : ε → ε'} {m : Proc σ ε α}
    (hm : Triple P m Q E) (herror : ∀ e s, E e s → E' (f e) s) :
    Triple P (m.mapError f) Q E' := by
  intro s hs
  have h := hm s hs
  rw [Proc.mapError]
  rcases hr : m s with ⟨a, s₁⟩ | ⟨e, s₁⟩ <;> rw [hr] at h
  · exact h
  · exact herror e s₁ h

/-- The loop rule: an invariant of the body is an invariant of the loop. -/
theorem forEach {I : σ → Prop} {l : List ι} {body : ι → Proc σ ε PUnit.{w + 1}}
    (hb : ∀ i ∈ l, Triple I (body i) (fun _ => I) E) :
    Triple I (Proc.forEach l body) (fun _ => I) E := by
  induction l with
  | nil => exact Triple.pure fun _ hs => hs
  | cons i rest ih =>
    refine Triple.bind (hb i (List.mem_cons_self ..)) fun _ => ?_
    exact ih fun j hj => hb j (List.mem_cons_of_mem _ hj)

end Triple

/-! ## The errors of a procedure -/

/-- Every error that the procedure leaves by is in `E`. -/
def RaisesOnly (E : ε → Prop) (m : Proc σ ε α) : Prop := ∀ s e s', m s = .raise e s' → E e

namespace RaisesOnly

variable {E : ε → Prop}

theorem pure (a : α) : RaisesOnly E (Pure.pure a : Proc σ ε α) := by
  intro s e s' h
  cases h

theorem modify (f : σ → σ) : RaisesOnly E (Proc.modify f : Proc σ ε PUnit.{w + 1}) := by
  intro s e s' h
  cases h

theorem read_bind {σ : Type w} {f : σ → Proc σ ε β} (h : ∀ s, RaisesOnly E (f s)) :
    RaisesOnly E (Proc.read >>= f) :=
  fun s e s' hrun => h s s e s' hrun

theorem bind {m : Proc σ ε α} {f : α → Proc σ ε β} (hm : RaisesOnly E m)
    (hf : ∀ a, RaisesOnly E (f a)) : RaisesOnly E (m >>= f) := by
  intro s e s' h
  rcases bind_eq_raise.mp h with hraise | ⟨a, s₁, -, hraise⟩
  · exact hm s e s' hraise
  · exact hf a s₁ e s' hraise

theorem when {condition : Bool} {m : Proc σ ε PUnit.{w + 1}} (hm : RaisesOnly E m) :
    RaisesOnly E (Proc.when condition m) := by
  cases condition
  · exact RaisesOnly.pure _
  · exact hm

theorem forEach {l : List ι} {body : ι → Proc σ ε PUnit.{w + 1}}
    (hb : ∀ i, RaisesOnly E (body i)) : RaisesOnly E (Proc.forEach l body) := by
  induction l with
  | nil => exact RaisesOnly.pure _
  | cons i rest ih => exact RaisesOnly.bind (hb i) fun _ => ih

/-- A procedure without errors returns. -/
theorem returns {m : Proc σ ε α} (hm : RaisesOnly (fun _ => False) m) (s : σ) :
    ∃ a s', m s = .ok a s' := by
  rcases hr : m s with ⟨a, s'⟩ | ⟨e, s'⟩
  · exact ⟨a, s', rfl⟩
  · exact (hm s e s' hr).elim

end RaisesOnly

/-! ## Runs -/

/-- Run the body for each element in order, handing a value from each step to
the next one. -/
def fold (body : ι → α → Proc σ ε α) : List ι → α → Proc σ ε α
  | [], a => pure a
  | i :: rest, a => body i a >>= fold body rest

/-- Each step of the run starts where its condition holds. -/
def StepsMeet (ok : ι → α → σ → Prop) (body : ι → α → Proc σ ε α) : List ι → α → σ → Prop
  | [], _, _ => True
  | i :: rest, a, s => ok i a s ∧ ∀ a' s', body i a s = .ok a' s' → StepsMeet ok body rest a' s'

/-- A run can be followed to see whether its steps meet their condition. -/
instance StepsMeet.decidable {ok : ι → α → σ → Prop} [∀ i a s, Decidable (ok i a s)]
    (body : ι → α → Proc σ ε α) : ∀ l a s, Decidable (StepsMeet ok body l a s)
  | [], _, _ => .isTrue trivial
  | i :: rest, a, s =>
    match hrun : body i a s with
    | .ok a' s' =>
      have : Decidable (StepsMeet ok body rest a' s') := StepsMeet.decidable body rest a' s'
      decidable_of_iff (ok i a s ∧ StepsMeet ok body rest a' s')
        ⟨fun h => ⟨h.1, fun _ _ heq => by
          cases hrun.symm.trans heq
          exact h.2⟩, fun h => ⟨h.1, h.2 a' s' hrun⟩⟩
    | .raise _ _ =>
      decidable_of_iff (ok i a s)
        ⟨fun h => ⟨h, fun _ _ heq => by cases hrun.symm.trans heq⟩, fun h => h.1⟩

theorem StepsMeet.of_forall {p : ι → Prop} {body : ι → α → Proc σ ε α} {l : List ι}
    (h : ∀ i ∈ l, p i) (a : α) (s : σ) : StepsMeet (fun i _ _ => p i) body l a s := by
  induction l generalizing a s with
  | nil => trivial
  | cons i rest ih =>
    exact ⟨h i (List.mem_cons_self ..),
      fun a' s' _ => ih (fun j hj => h j (List.mem_cons_of_mem _ hj)) a' s'⟩

theorem StepsMeet.and {ok₁ ok₂ : ι → α → σ → Prop} {body : ι → α → Proc σ ε α} {l : List ι}
    {a : α} {s : σ} (h₁ : StepsMeet ok₁ body l a s) (h₂ : StepsMeet ok₂ body l a s) :
    StepsMeet (fun i a s => ok₁ i a s ∧ ok₂ i a s) body l a s := by
  induction l generalizing a s with
  | nil => trivial
  | cons i rest ih =>
    exact ⟨⟨h₁.1, h₂.1⟩, fun a' s' hrun => ih (h₁.2 a' s' hrun) (h₂.2 a' s' hrun)⟩

section Runs

variable {ok : ι → α → σ → Prop} {body : ι → α → Proc σ ε α} {I : α → σ → Prop}

/-- The run rule: what each step preserves under its condition holds after the
whole run. -/
theorem fold_ok
    (hstep : ∀ i a s a' s', ok i a s → I a s → body i a s = .ok a' s' → I a' s')
    {l : List ι} {a a' : α} {s s' : σ} (hmeet : StepsMeet ok body l a s) (h : I a s)
    (hrun : fold body l a s = .ok a' s') : I a' s' := by
  induction l generalizing a s with
  | nil =>
    cases hrun
    exact h
  | cons i rest ih =>
    obtain ⟨a₁, s₁, hbody, hrun⟩ := bind_eq_ok.mp hrun
    exact ih (hmeet.2 a₁ s₁ hbody) (hstep i a s a₁ s₁ hmeet.1 h hbody) hrun

/-- The run rule for both exits: a step that ends the run by an error leaves a
state in `J`. -/
theorem fold_next {J : σ → Prop}
    (hstep : ∀ i a s a' s', ok i a s → I a s → body i a s = .ok a' s' → I a' s')
    (hraise : ∀ i a s e s', ok i a s → I a s → body i a s = .raise e s' → J s')
    (hJ : ∀ a s, I a s → J s) {l : List ι} {a : α} {s : σ} (hmeet : StepsMeet ok body l a s)
    (h : I a s) : J (fold body l a s).next := by
  induction l generalizing a s with
  | nil => exact hJ a s h
  | cons i rest ih =>
    rw [fold]
    rcases hrun : body i a s with ⟨a₁, s₁⟩ | ⟨e, s₁⟩
    · rw [bind_of_ok hrun]
      exact ih (hmeet.2 a₁ s₁ hrun) (hstep i a s a₁ s₁ hmeet.1 h hrun)
    · rw [bind_of_raise hrun]
      exact hraise i a s e s₁ hmeet.1 h hrun

theorem RaisesOnly.fold {E : ε → Prop} (hb : ∀ i a, RaisesOnly E (body i a)) (l : List ι) (a : α) :
    RaisesOnly E (Proc.fold body l a) := by
  induction l generalizing a with
  | nil => exact RaisesOnly.pure a
  | cons i rest ih => exact RaisesOnly.bind (hb i a) fun a' => ih a'

/-- The steps that are left meet their conditions too. -/
theorem StepsMeet.append {l₁ l₂ : List ι} {a a₁ : α} {s s₁ : σ}
    (hmeet : StepsMeet ok body (l₁ ++ l₂) a s) (hrun : fold body l₁ a s = .ok a₁ s₁) :
    StepsMeet ok body l₁ a s ∧ StepsMeet ok body l₂ a₁ s₁ := by
  induction l₁ generalizing a s with
  | nil =>
    cases hrun
    exact ⟨trivial, hmeet⟩
  | cons i rest ih =>
    obtain ⟨a₂, s₂, hbody, hrun⟩ := bind_eq_ok.mp hrun
    refine ⟨⟨hmeet.1, fun a' s' hbody' => ?_⟩, (ih (hmeet.2 a₂ s₂ hbody) hrun).2⟩
    rw [hbody] at hbody'
    cases hbody'
    exact (ih (hmeet.2 a₂ s₂ hbody) hrun).1

/-- A run in two parts. -/
theorem fold_append {l₁ l₂ : List ι} {a a₁ : α} {s s₁ : σ} (hrun : fold body l₁ a s = .ok a₁ s₁) :
    fold body (l₁ ++ l₂) a s = fold body l₂ a₁ s₁ := by
  induction l₁ generalizing a s with
  | nil =>
    cases hrun
    rfl
  | cons i rest ih =>
    obtain ⟨a₂, s₂, hbody, hrun⟩ := bind_eq_ok.mp hrun
    exact (bind_of_ok hbody).trans (ih hrun)

/-- The property holds wherever the run comes to. -/
def Throughout (P : α → σ → Prop) (body : ι → α → Proc σ ε α) (l : List ι) (a : α) (s : σ) :
    Prop :=
  ∀ before, before <+: l → ∀ a' s', fold body before a s = .ok a' s' → P a' s'

theorem throughout_nil : Throughout I body [] a s ↔ I a s := by
  refine ⟨fun h => h [] List.prefix_rfl a s rfl, fun h before hbefore a' s' hrun => ?_⟩
  obtain rfl := List.prefix_nil.mp hbefore
  cases hrun
  exact h

theorem throughout_cons {i : ι} {rest : List ι} {a₁ : α} {s₁ : σ} (hbody : body i a s = .ok a₁ s₁) :
    Throughout I body (i :: rest) a s ↔ I a s ∧ Throughout I body rest a₁ s₁ := by
  constructor
  · refine fun h => ⟨h [] List.nil_prefix a s rfl, fun before hbefore a' s' hrun => ?_⟩
    exact h (i :: before) ((List.prefix_cons_inj i).mpr hbefore) a' s'
      ((bind_of_ok hbody).trans hrun)
  · rintro ⟨hstart, hrest⟩ before hbefore a' s' hrun
    rcases before with _ | ⟨j, before⟩
    · cases hrun
      exact hstart
    · obtain ⟨rfl, hprefix⟩ := List.cons_prefix_cons.mp hbefore
      exact hrest before hprefix a' s' ((bind_of_ok hbody).symm.trans hrun)

/-- What a step keeps exactly when it meets its condition holds wherever the run comes to
exactly when each step meets its condition. -/
theorem throughout_iff (hreturns : ∀ i a s, ∃ a' s', body i a s = .ok a' s')
    (hstep : ∀ i a s a' s', I a s → body i a s = .ok a' s' → (I a' s' ↔ ok i a s))
    {l : List ι} {a : α} {s : σ} (h : I a s) :
    Throughout I body l a s ↔ StepsMeet ok body l a s := by
  induction l generalizing a s with
  | nil => exact throughout_nil.trans (iff_true_intro h)
  | cons i rest ih =>
    obtain ⟨a₁, s₁, hbody⟩ := hreturns i a s
    rw [throughout_cons hbody, and_iff_right h]
    constructor
    · intro hrest
      have hnext : I a₁ s₁ := hrest [] List.nil_prefix a₁ s₁ rfl
      refine ⟨(hstep i a s a₁ s₁ h hbody).mp hnext, fun a' s' hbody' => ?_⟩
      cases hbody.symm.trans hbody'
      exact (ih hnext).mp hrest
    · rintro ⟨hok, hmeet⟩
      exact (ih ((hstep i a s a₁ s₁ h hbody).mpr hok)).mpr (hmeet a₁ s₁ hbody)

/-- The rule for a loop whose steps meet conditions, on both exits. -/
theorem forEach_next {ok : ι → σ → Prop} {body : ι → Proc σ ε Unit} {I : σ → Prop} {l : List ι}
    (hstep : ∀ i ∈ l, ∀ s, ok i s → I s → I (body i s).next) {s : σ}
    (hmeet : StepsMeet (fun i (_ : Unit) s => ok i s) (fun i _ => body i) l () s) (h : I s) :
    I (forEach l body s).next := by
  induction l generalizing s with
  | nil => exact h
  | cons i rest ih =>
    have hnext := hstep i (List.mem_cons_self ..) s hmeet.1 h
    rw [forEach]
    rcases hrun : body i s with ⟨a, s₁⟩ | ⟨e, s₁⟩ <;> rw [hrun] at hnext
    · rw [bind_of_ok hrun]
      exact ih (fun j hj => hstep j (List.mem_cons_of_mem _ hj)) (hmeet.2 a s₁ hrun) hnext
    · rw [bind_of_raise hrun]
      exact hnext

end Runs

/-- The procedure keeps an invariant of the state on both exits. -/
def Keeps (I : σ → Prop) (m : Proc σ ε α) : Prop := Triple I m (fun _ => I) (fun _ => I)

theorem Keeps.next {I : σ → Prop} {m : Proc σ ε α} (hm : Keeps I m) {s : σ} (hs : I s) :
    I (m s).next := by
  have h := hm s hs
  rcases hr : m s with ⟨a, s'⟩ | ⟨e, s'⟩ <;> rw [hr] at h <;> exact h

namespace Keeps

variable {I : σ → Prop}

theorem pure (a : α) : Keeps I (Pure.pure a : Proc σ ε α) := Triple.pure fun _ hs => hs

theorem modify {f : σ → σ} (h : ∀ s, I s → I (f s)) :
    Keeps I (Proc.modify f : Proc σ ε PUnit.{w + 1}) := Triple.modify h

theorem raise (e : ε) : Keeps I (Proc.raise e : Proc σ ε α) := Triple.raise fun _ hs => hs

theorem bind {m : Proc σ ε α} {f : α → Proc σ ε β} (hm : Keeps I m) (hf : ∀ a, Keeps I (f a)) :
    Keeps I (m >>= f) := Triple.bind hm hf

theorem read_bind {σ : Type w} {I : σ → Prop} {f : σ → Proc σ ε β} (h : ∀ s, Keeps I (f s)) :
    Keeps I (Proc.read >>= f) :=
  fun s hs => h s s hs

theorem when {condition : Bool} {m : Proc σ ε PUnit.{w + 1}} (hm : Keeps I m) :
    Keeps I (Proc.when condition m) := by
  cases condition
  · exact Keeps.pure _
  · exact hm

theorem forEach {l : List ι} {body : ι → Proc σ ε PUnit.{w + 1}} (hb : ∀ i ∈ l, Keeps I (body i)) :
    Keeps I (Proc.forEach l body) := Triple.forEach hb

theorem onError {m : Proc σ ε α} {handler : ε → Proc σ ε α} (hm : Keeps I m)
    (hh : ∀ e, Keeps I (handler e)) : Keeps I (m.onError handler) := Triple.onError hm hh

end Keeps

end Proc
