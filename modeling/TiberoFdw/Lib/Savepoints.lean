import Mathlib.Data.List.Nodup
import Mathlib.Data.List.Perm.Basic

/-!
# Savepoints

A transaction with savepoints: what is done after a savepoint can be undone without the rest.
There is a level for each savepoint that is set, with what was done in it. Rolling back undoes
the innermost level, and releasing makes it a part of the level around it, which may be undone
later. At any moment, what was done is either kept or undone, and not both (`Savepoints.Covers`).
-/

/-- A transaction with savepoints: what counts, level by level, and what was taken back. -/
structure Savepoints (α : Type*) where
  /-- what was done since the last savepoint -/
  current : List α
  /-- what was done before it, the innermost level first -/
  outer : List (List α)
  undone : List α

namespace Savepoints

variable {α : Type*}

/-- Nothing is done, and no savepoint is set. -/
def start : Savepoints α := ⟨[], [], []⟩

/-- Something is done. -/
def add (s : Savepoints α) (done : List α) : Savepoints α :=
  { s with current := s.current ++ done }

/-- Set a savepoint. -/
def savepoint (s : Savepoints α) : Savepoints α :=
  { s with current := [], outer := s.current :: s.outer }

/-- Forget the last savepoint. -/
def release (s : Savepoints α) : Savepoints α :=
  match s.outer with
  | [] => s
  | level :: outer => { s with current := level ++ s.current, outer }

/-- Undo what was done since the last savepoint. -/
def rollback (s : Savepoints α) : Savepoints α :=
  match s.outer with
  | [] => s
  | level :: outer => { current := level, outer, undone := s.undone ++ s.current }

/-- What a commit keeps. -/
def kept (s : Savepoints α) : List α := s.outer.reverse.flatten ++ s.current

variable {s : Savepoints α} {done l : List α}

theorem kept_add : (s.add done).kept = s.kept ++ done := (List.append_assoc ..).symm

theorem kept_savepoint : s.savepoint.kept = s.kept := by
  simp [kept, savepoint]

theorem kept_release : s.release.kept = s.kept := by
  obtain ⟨current, outer, undone⟩ := s
  cases outer with
  | nil => rfl
  | cons level outer => simp [kept, release]

theorem undone_release : s.release.undone = s.undone := by
  obtain ⟨current, outer, undone⟩ := s
  cases outer <;> rfl

/-- Rolling back moves the innermost level, if there is one. -/
theorem rollback_cases : s.rollback = s ∨
    s.kept = s.rollback.kept ++ s.current ∧ s.rollback.undone = s.undone ++ s.current := by
  obtain ⟨current, outer, undone⟩ := s
  cases outer with
  | nil => exact .inl rfl
  | cons level outer => exact .inr ⟨by simp [kept, rollback], rfl⟩

/-- What was done is kept or undone. -/
def Covers (s : Savepoints α) (l : List α) : Prop := (s.kept ++ s.undone).Perm l

namespace Covers

theorem start : (Savepoints.start : Savepoints α).Covers [] := .refl _

theorem add (h : s.Covers l) (done : List α) : (s.add done).Covers (l ++ done) := by
  have hmoved : ((s.kept ++ done) ++ s.undone).Perm ((s.kept ++ s.undone) ++ done) := by
    rw [List.append_assoc, List.append_assoc]
    exact .append_left _ List.perm_append_comm
  rw [Covers, kept_add]
  exact hmoved.trans (.append_right _ h)

theorem savepoint (h : s.Covers l) : s.savepoint.Covers l := by
  rw [Covers, kept_savepoint]
  exact h

theorem release (h : s.Covers l) : s.release.Covers l := by
  rw [Covers, kept_release, undone_release]
  exact h

theorem rollback (h : s.Covers l) : s.rollback.Covers l := by
  rcases @rollback_cases α s with heq | ⟨hkept, hundone⟩
  · rw [heq]
    exact h
  · rw [Covers, hkept, List.append_assoc] at h
    rw [Covers, hundone]
    exact (List.Perm.append_left _ List.perm_append_comm).trans h

theorem mem_iff (h : s.Covers l) {a : α} : a ∈ l ↔ a ∈ s.kept ∨ a ∈ s.undone :=
  (List.Perm.mem_iff h).symm.trans List.mem_append

/-- When no two things that were done are the same: what is undone is not kept. -/
theorem not_kept (h : s.Covers l) (hnodup : l.Nodup) {a : α} (ha : a ∈ s.undone) : a ∉ s.kept :=
  fun hkept => (List.nodup_append.mp (h.nodup_iff.mpr hnodup)).2.2 a hkept a ha rfl

/-- Everything is kept exactly when nothing is undone. -/
theorem all_kept_iff (h : s.Covers l) (hnodup : l.Nodup) :
    (∀ a ∈ l, a ∈ s.kept) ↔ s.undone = [] := by
  constructor
  · intro hall
    refine List.eq_nil_iff_forall_not_mem.mpr fun a ha => ?_
    exact h.not_kept hnodup ha (hall a (h.mem_iff.mpr (.inr ha)))
  · intro hundone a ha
    refine (h.mem_iff.mp ha).resolve_right ?_
    rw [hundone]
    exact List.not_mem_nil

end Covers

end Savepoints
