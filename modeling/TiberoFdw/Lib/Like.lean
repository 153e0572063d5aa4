import Mathlib.Data.List.Forall2
import Mathlib.Data.List.Infix

/-!
# LIKE patterns

In a pattern `%` stands for any text, `_` for one character, and the escape character, when
there is one, takes their meaning from the character behind it. A pattern that ends with a
single escape character has no meaning. Without an escape character a pattern means the same
as with one **only if that character does not occur in it** (`like_eq_iff`).
-/

namespace Like

/-- An element of a pattern. -/
inductive Element : Type where
  | char (c : Char)
  /-- one character -/
  | one
  /-- any text -/
  | any
  deriving DecidableEq

/-- What a character means that is not escaped. -/
def element (c : Char) : Element :=
  if c = '%' then .any else if c = '_' then .one else .char c

/-- The elements of a pattern. -/
def elements (escape : Option Char) : List Char → Option (List Element)
  | [] => some []
  | [c] => if escape = some c then none else some [element c]
  | c :: d :: rest =>
    if escape = some c then (elements escape rest).map (.char d :: ·)
    else (elements escape (d :: rest)).map (element c :: ·)

/-- The text is what the elements stand for. -/
def isMatch : List Element → List Char → Bool
  | [], s => s.isEmpty
  | .char _ :: _, [] => false
  | .char c :: es, d :: s => c == d && isMatch es s
  | .one :: _, [] => false
  | .one :: es, _ :: s => isMatch es s
  | .any :: es, s => s.tails.any (isMatch es)

/-- The text is like the pattern; `none` when the pattern has no meaning. -/
def like (escape : Option Char) (pattern s : List Char) : Option Bool :=
  (elements escape pattern).map (isMatch · s)

/-! ## Without an escape character -/

theorem elements_none (pattern : List Char) :
    elements none pattern = some (pattern.map element) := by
  induction pattern with
  | nil => rfl
  | cons c rest ih =>
    cases rest with
    | nil => rfl
    | cons d rest =>
      rw [elements, if_neg nofun, ih]
      rfl

/-! ## How long a matching text is -/

/-- The characters of a pattern that match one character each. -/
def fixed (pattern : List Char) : List Char := pattern.filter (· ≠ '%')

theorem fixed_any {c : Char} (hc : c = '%') (rest : List Char) :
    fixed (c :: rest) = fixed rest := by
  simp [fixed, hc]

theorem fixed_cons {c : Char} (hc : c ≠ '%') (rest : List Char) :
    fixed (c :: rest) = c :: fixed rest := by
  simp [fixed, hc]

theorem length_fixed_le (c : Char) (rest : List Char) :
    (fixed rest).length ≤ (fixed (c :: rest)).length :=
  ((List.sublist_cons_self c rest).filter _).length_le

/-- The character of a pattern matches the character. -/
def Fits (c d : Char) : Prop := c = '_' ∨ c = d

/-- A matching text has a character for each fixed character, and when it has no more, they
are matched one by one. -/
theorem fixed_of_isMatch {pattern s : List Char} (h : isMatch (pattern.map element) s = true) :
    (fixed pattern).length ≤ s.length ∧
      (s.length = (fixed pattern).length → List.Forall₂ Fits (fixed pattern) s) := by
  induction pattern generalizing s with
  | nil =>
    obtain rfl : s = [] := List.isEmpty_iff.mp h
    exact ⟨Nat.le_refl 0, fun _ => .nil⟩
  | cons c rest ih =>
    rw [List.map_cons, element] at h
    by_cases hany : c = '%'
    · -- the rest matches the end of the text, or all of it
      rw [if_pos hany, isMatch, List.any_eq_true] at h
      obtain ⟨t, htail, hmatch⟩ := h
      have hsuffix : t <:+ s := (List.mem_tails t s).mp htail
      obtain ⟨hle, hfits⟩ := ih hmatch
      rw [fixed_any hany]
      refine ⟨Nat.le_trans hle hsuffix.length_le, fun hlength => ?_⟩
      have hall : t = s := hsuffix.eq_of_length_le (by omega)
      exact hall ▸ hfits (by rw [hall, hlength])
    · rw [if_neg hany] at h
      obtain ⟨d, s, rfl, hfit, hmatch⟩ : ∃ d s', s = d :: s' ∧ Fits c d ∧
          isMatch (rest.map element) s' = true := by
        split_ifs at h with hone
        · cases s with
          | nil => cases h
          | cons d s => exact ⟨d, s, rfl, .inl hone, h⟩
        · cases s with
          | nil => cases h
          | cons d s =>
            rw [isMatch, Bool.and_eq_true, beq_iff_eq] at h
            exact ⟨d, s, rfl, .inr h.1, h.2⟩
      obtain ⟨hle, hfits⟩ := ih hmatch
      rw [fixed_cons hany, List.length_cons, List.length_cons]
      exact ⟨Nat.succ_le_succ hle, fun hlength => .cons hfit (hfits (by omega))⟩

/-! ## With an escape character -/

section

variable {e : Char}

/-- The patterns that have a meaning. -/
inductive IsPattern (e : Char) : List Char → Prop where
  | nil : IsPattern e []
  | escaped (d : Char) {rest : List Char} (h : IsPattern e rest) : IsPattern e (e :: d :: rest)
  | plain {c : Char} (hc : c ≠ e) {rest : List Char} (h : IsPattern e rest) :
    IsPattern e (c :: rest)

theorem elements_escaped (d : Char) (rest : List Char) :
    elements (some e) (e :: d :: rest) = (elements (some e) rest).map (.char d :: ·) := by
  rw [elements, if_pos rfl]

theorem elements_plain {c : Char} (hc : c ≠ e) (rest : List Char) :
    elements (some e) (c :: rest) = (elements (some e) rest).map (element c :: ·) := by
  have hne : some e ≠ some c := fun heq => hc (Option.some.inj heq).symm
  cases rest with
  | nil => exact if_neg hne
  | cons d rest => rw [elements, if_neg hne]

theorem isPattern_of_isSome {pattern : List Char}
    (h : (elements (some e) pattern).isSome = true) : IsPattern e pattern := by
  fun_induction elements (some e) pattern with
  | case1 => exact .nil
  | case2 => cases h
  | case3 c hc => exact .plain (fun heq => hc (congrArg some heq.symm)) .nil
  | case4 c d rest heq ih =>
    rw [Option.isSome_map] at h
    obtain rfl := Option.some.inj heq
    exact .escaped d (ih h)
  | case5 c d rest hne ih =>
    rw [Option.isSome_map] at h
    exact .plain (fun heq => hne (congrArg some heq.symm)) (ih h)

/-- The shortest text that is like the pattern: `%` stands for nothing, and `_` for itself. -/
def shortest (e : Char) : List Char → List Char
  | [] => []
  | [c] => if c = '%' then [] else [c]
  | c :: d :: rest =>
    if c = e then d :: shortest e rest
    else if c = '%' then shortest e (d :: rest)
    else c :: shortest e (d :: rest)

theorem shortest_escaped (d : Char) (rest : List Char) :
    shortest e (e :: d :: rest) = d :: shortest e rest := by
  rw [shortest, if_pos rfl]

theorem shortest_plain {c : Char} (hc : c ≠ e) (rest : List Char) :
    shortest e (c :: rest) = if c = '%' then shortest e rest else c :: shortest e rest := by
  cases rest with
  | nil => rfl
  | cons d rest => rw [shortest, if_neg hc]

/-- An unescaped character matches what it stands for in the shortest text. -/
theorem isMatch_element {c : Char} {es : List Element} {s : List Char}
    (h : isMatch es s = true) :
    isMatch (element c :: es) (if c = '%' then s else c :: s) = true := by
  rw [element]
  split_ifs with hany hone
  · rw [isMatch, List.any_eq_true]
    exact ⟨s, (List.mem_tails s s).mpr List.suffix_rfl, h⟩
  · exact h
  · rw [isMatch, h, Bool.and_true]
    exact beq_self_eq_true c

/-- The shortest text is like the pattern. -/
theorem like_shortest {pattern : List Char} (h : IsPattern e pattern) :
    like (some e) pattern (shortest e pattern) = some true := by
  induction h with
  | nil => rfl
  | escaped d _ ih =>
    obtain ⟨es, hes, hmatch⟩ := Option.map_eq_some_iff.mp ih
    rw [like, elements_escaped, shortest_escaped, hes, Option.map_some, Option.map_some, isMatch,
      hmatch, Bool.and_true, beq_self_eq_true]
  | plain hc _ ih =>
    obtain ⟨es, hes, hmatch⟩ := Option.map_eq_some_iff.mp ih
    rw [like, elements_plain hc, shortest_plain hc, hes, Option.map_some, Option.map_some,
      isMatch_element hmatch]

theorem length_shortest_le (he : e ≠ '%') {pattern : List Char} (h : IsPattern e pattern) :
    (shortest e pattern).length ≤ (fixed pattern).length := by
  induction h with
  | nil => exact Nat.le_refl 0
  | escaped d _ ih =>
    rw [shortest_escaped, fixed_cons he, List.length_cons, List.length_cons]
    exact Nat.succ_le_succ (Nat.le_trans ih (length_fixed_le d _))
  | @plain c hc rest _ ih =>
    rw [shortest_plain hc]
    split_ifs with hany
    · exact Nat.le_trans ih (length_fixed_le c rest)
    · rw [fixed_cons hany, List.length_cons, List.length_cons]
      exact Nat.succ_le_succ ih

/-- When the fixed characters match the shortest text one by one, none of them escapes. -/
theorem not_mem_of_fits (hany : e ≠ '%') (hone : e ≠ '_') {pattern : List Char}
    (h : IsPattern e pattern) (hfits : List.Forall₂ Fits (fixed pattern) (shortest e pattern)) :
    e ∉ pattern := by
  induction h with
  | nil => exact List.not_mem_nil
  | @escaped d rest h ih =>
    -- behind an escaped escape character, the shortest text is shorter than the pattern
    exfalso
    rw [shortest_escaped, fixed_cons hany] at hfits
    obtain _ | ⟨hfit, hrest⟩ := hfits
    obtain rfl : e = d := hfit.resolve_left hone
    rw [fixed_cons hany] at hrest
    have hlength := hrest.length_eq
    have hle := length_shortest_le hany h
    rw [List.length_cons] at hlength
    omega
  | @plain c hc rest h ih =>
    rw [shortest_plain hc] at hfits
    have hrest : List.Forall₂ Fits (fixed rest) (shortest e rest) := by
      split_ifs at hfits with hc'
      · rwa [fixed_any hc'] at hfits
      · rw [fixed_cons hc'] at hfits
        exact (List.forall₂_cons.mp hfits).2
    rw [List.mem_cons, not_or]
    exact ⟨hc.symm, ih hrest⟩

/-- An escape character that does not occur makes no difference. -/
theorem elements_of_not_mem {pattern : List Char} (h : e ∉ pattern) :
    elements (some e) pattern = elements none pattern := by
  rw [elements_none]
  induction pattern with
  | nil => rfl
  | cons c rest ih =>
    rw [List.mem_cons, not_or] at h
    rw [elements_plain (Ne.symm h.1), ih h.2]
    rfl

/-- **A pattern means the same with and without an escape character exactly when that
character does not occur in it.** -/
theorem like_eq_iff (hany : e ≠ '%') (hone : e ≠ '_') {pattern : List Char}
    (h : (elements (some e) pattern).isSome = true) :
    (∀ s, like none pattern s = like (some e) pattern s) ↔ e ∉ pattern := by
  have hpattern := isPattern_of_isSome h
  constructor
  · intro heq
    -- the text to tell them apart: both sides would have to match it
    have hlike := heq (shortest e pattern)
    rw [like_shortest hpattern, like, elements_none, Option.map_some, Option.some.injEq] at hlike
    obtain ⟨hle, hfits⟩ := fixed_of_isMatch hlike
    exact not_mem_of_fits hany hone hpattern
      (hfits (Nat.le_antisymm (length_shortest_le hany hpattern) hle))
  · intro hmem s
    rw [like, like, elements_of_not_mem hmem]

end

end Like
