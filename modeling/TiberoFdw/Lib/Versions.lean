import Mathlib.Data.List.Basic

/-!
# Changes and announcements

Objects change, and their changes are announced later: by notes that may cover many
objects at once. Whoever has copied an object cannot see whether it has changed since,
only what was announced. A copy is *current* when it was made at least at the last
version that was announced, or when it is marked (`Versions.Current`); it stays so as
long as every note that covers its object marks it.
-/

/-- The number of the changes of each object, and of those that were announced. -/
structure Versions (ω : Type) where
  latest : ω → Nat
  known : ω → Nat
  le : ∀ o, known o ≤ latest o

/-- What happens to the objects. -/
inductive VersionEvent (ω ν : Type) : Type where
  | changed (object : ω)
  | announced (note : ν)

/-- The note of an announcement. -/
def VersionEvent.note? {ω ν : Type} : VersionEvent ω ν → Option ν
  | .changed _ => none
  | .announced note => some note

namespace Versions

/-- Nothing has changed yet. -/
def start (ω : Type) : Versions ω := ⟨fun _ => 0, fun _ => 0, fun _ => Nat.le_refl 0⟩

section

variable {ω : Type} {v : Versions ω} {o : ω}

/-- A copy that was made at a version is marked, or as new as what was announced. -/
structure Current (v : Versions ω) (o : ω) (copied : Nat) (marked : Bool) : Prop where
  le : copied ≤ v.latest o
  known : marked = false → v.known o ≤ copied

/-- A copy that is not marked is as new as what was announced. -/
def isCurrent (v : Versions ω) (o : ω) (copied : Nat) : Bool :=
  decide (v.known o ≤ copied) && decide (copied ≤ v.latest o)

theorem isCurrent_iff {copied : Nat} :
    v.isCurrent o copied = true ↔ v.Current o copied false := by
  rw [isCurrent, Bool.and_eq_true, decide_eq_true_eq, decide_eq_true_eq]
  exact ⟨fun h => ⟨h.2, fun _ => h.1⟩, fun h => ⟨h.known rfl, h.le⟩⟩

theorem Current.marked {copied : Nat} (h : v.Current o copied false) (marked : Bool) :
    v.Current o copied marked :=
  ⟨h.le, fun _ => h.known rfl⟩

end

section

variable {ω ν : Type} [DecidableEq ω] (covers : ν → ω → Bool)

/-- An object gets a new version; what is known of it may be out of date from then on. -/
def change (v : Versions ω) (object : ω) : Versions ω where
  latest o := if o = object then v.latest o + 1 else v.latest o
  known := v.known
  le o := by
    split_ifs
    · exact Nat.le_succ_of_le (v.le o)
    · exact v.le o

/-- The latest versions of the objects that a note covers become known. -/
def announce (v : Versions ω) (note : ν) : Versions ω where
  latest := v.latest
  known o := if covers note o then v.latest o else v.known o
  le o := by
    split_ifs
    · exact Nat.le_refl _
    · exact v.le o

/-- One event. -/
def step (v : Versions ω) : VersionEvent ω ν → Versions ω
  | .changed object => v.change object
  | .announced note => v.announce covers note

/-- After some events. -/
def after (v : Versions ω) (events : List (VersionEvent ω ν)) : Versions ω :=
  events.foldl (step covers) v

variable {covers} {v : Versions ω} {o : ω}

theorem after_append (events₁ events₂ : List (VersionEvent ω ν)) :
    v.after covers (events₁ ++ events₂) = (v.after covers events₁).after covers events₂ :=
  List.foldl_append ..

/-- Versions only grow. -/
theorem latest_le_step (event : VersionEvent ω ν) :
    v.latest o ≤ (v.step covers event).latest o := by
  cases event with
  | changed object =>
    change v.latest o ≤ if o = object then v.latest o + 1 else v.latest o
    split_ifs
    · exact Nat.le_succ _
    · exact Nat.le_refl _
  | announced note => exact Nat.le_refl _

theorem known_le_step (event : VersionEvent ω ν) : v.known o ≤ (v.step covers event).known o := by
  cases event with
  | changed object => exact Nat.le_refl _
  | announced note =>
    change v.known o ≤ if covers note o then v.latest o else v.known o
    split_ifs
    · exact v.le o
    · exact Nat.le_refl _

theorem latest_le_after (events : List (VersionEvent ω ν)) :
    v.latest o ≤ (v.after covers events).latest o := by
  induction events generalizing v with
  | nil => exact Nat.le_refl _
  | cons event rest ih => exact Nat.le_trans (latest_le_step event) ih

theorem known_le_after (events : List (VersionEvent ω ν)) :
    v.known o ≤ (v.after covers events).known o := by
  induction events generalizing v with
  | nil => exact Nat.le_refl _
  | cons event rest ih => exact Nat.le_trans (known_le_step event) ih

/-! ## Copies -/

/-- A copy that an announcement marks stays current. -/
theorem Current.step {copied : Nat} {marked marked' : Bool} {event : VersionEvent ω ν}
    (h : v.Current o copied marked) (hmarked : marked = true → marked' = true)
    (hnote : ∀ note, event = .announced note → covers note o = true → marked' = true) :
    (v.step covers event).Current o copied marked' := by
  refine ⟨Nat.le_trans h.le (latest_le_step event), fun hno => ?_⟩
  have hunmarked : marked = false := by
    rcases marked with _ | _
    · rfl
    · rw [hmarked rfl] at hno
      cases hno
  cases event with
  | changed object => exact h.known hunmarked
  | announced note =>
    change (if covers note o then v.latest o else v.known o) ≤ copied
    split_ifs with hcovers
    · rw [hnote note rfl hcovers] at hno
      cases hno
    · exact h.known hunmarked

end

end Versions

