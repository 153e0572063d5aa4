import Mathlib.Data.List.Basic

/-!
# Pairs of keywords and values, joined to one text

A text of pairs: each keyword is followed by `eq` and its value, and the pairs
are joined by `sep`. Nothing is escaped, so that reading finds the pairs again
exactly when no value contains the separator (`read_write`, `mem_read`); what is
read is always what was written (`write_read`).
-/

universe u

namespace KeyValue

variable {α : Type u} {sep eq : α}

/-! ## Writing and reading -/

/-- A keyword with its value. -/
def pairText (eq : α) (pair : List α × List α) : List α := pair.1 ++ eq :: pair.2

/-- The text of the pairs. -/
def write (sep eq : α) (pairs : List (List α × List α)) : List α :=
  [sep].intercalate (pairs.map (pairText eq))

section

variable [DecidableEq α]

/-- A keyword reaches to the first `eq`. -/
def readPair (eq : α) : List α → Option (List α × List α)
  | [] => none
  | a :: rest =>
    if a = eq then some ([], rest)
    else (readPair eq rest).map fun pair => (a :: pair.1, pair.2)

/-- Read each segment as a pair. -/
def readPairs (eq : α) : List (List α) → Option (List (List α × List α))
  | [] => some []
  | segment :: rest =>
    (readPair eq segment).bind fun pair => (readPairs eq rest).map (pair :: ·)

/-- The pairs of a text. -/
def read (sep eq : α) (text : List α) : Option (List (List α × List α)) :=
  readPairs eq (text.splitOn sep)

/-! ## One pair -/

theorem readPair_pairText {pair : List α × List α} (h : eq ∉ pair.1) :
    readPair eq (pairText eq pair) = some pair := by
  obtain ⟨keyword, value⟩ := pair
  induction keyword with
  | nil => simp [pairText, readPair]
  | cons a rest ih =>
    obtain ⟨ha, hrest⟩ : eq ≠ a ∧ eq ∉ rest := by simpa using h
    have hread := ih hrest
    rw [pairText] at hread ⊢
    rw [List.cons_append, readPair, if_neg (Ne.symm ha), hread]
    rfl

theorem pairText_readPair {segment : List α} {pair : List α × List α}
    (h : readPair eq segment = some pair) : pairText eq pair = segment := by
  induction segment generalizing pair with
  | nil => cases h
  | cons a rest ih =>
    rw [readPair] at h
    split_ifs at h with ha
    · cases h
      rw [ha]
      rfl
    · obtain ⟨pair', hpair', rfl⟩ := Option.map_eq_some_iff.mp h
      rw [← ih hpair']
      rfl

theorem readPairs_cons {segment : List α} {segments : List (List α)}
    {pairs : List (List α × List α)} (h : readPairs eq (segment :: segments) = some pairs) :
    ∃ pair rest, pairs = pair :: rest ∧ readPair eq segment = some pair ∧
      readPairs eq segments = some rest := by
  obtain ⟨pair, hpair, h⟩ := Option.bind_eq_some_iff.mp h
  obtain ⟨rest, hrest, rfl⟩ := Option.map_eq_some_iff.mp h
  exact ⟨pair, rest, rfl, hpair, hrest⟩

theorem map_pairText_readPairs {segments : List (List α)} {pairs : List (List α × List α)}
    (h : readPairs eq segments = some pairs) : pairs.map (pairText eq) = segments := by
  induction segments generalizing pairs with
  | nil =>
    cases h
    rfl
  | cons segment rest ih =>
    obtain ⟨pair, rest', rfl, hpair, hrest⟩ := readPairs_cons h
    rw [List.map_cons, pairText_readPair hpair, ih hrest]

theorem readPairs_map_pairText {pairs : List (List α × List α)}
    (h : ∀ pair ∈ pairs, eq ∉ pair.1) : readPairs eq (pairs.map (pairText eq)) = some pairs := by
  induction pairs with
  | nil => rfl
  | cons pair rest ih =>
    rw [List.map_cons, readPairs, readPair_pairText (h pair (List.mem_cons_self ..)),
      ih fun p hp => h p (List.mem_cons_of_mem _ hp)]
    rfl

/-! ## The whole text -/

/-- **Round trip**: the pairs are found again when no separator is in the way. This is the only
condition, and it is about the keys and the values one by one. -/
theorem read_write {pairs : List (List α × List α)} (hne : pairs ≠ []) (hsep : sep ≠ eq)
    (h : ∀ pair ∈ pairs, eq ∉ pair.1 ∧ sep ∉ pair.1 ∧ sep ∉ pair.2) :
    read sep eq (write sep eq pairs) = some pairs := by
  rw [read, write, List.splitOn_intercalate]
  · exact readPairs_map_pairText fun pair hp => (h pair hp).1
  · intro segment hsegment
    obtain ⟨pair, hp, rfl⟩ := List.mem_map.mp hsegment
    obtain ⟨-, hkeyword, hvalue⟩ := h pair hp
    simp [pairText, hkeyword, hsep, hvalue]
  · simpa using hne

/-- What is read is what was written. -/
theorem write_read {text : List α} {pairs : List (List α × List α)}
    (h : read sep eq text = some pairs) : write sep eq pairs = text := by
  rw [write, map_pairText_readPairs h, List.intercalate_splitOn]

theorem not_mem_of_mem_splitOn {text segment : List α} (h : segment ∈ text.splitOn sep) :
    sep ∉ segment := by
  induction text generalizing segment with
  | nil =>
    rw [List.splitOn_nil, List.mem_singleton] at h
    rw [h]
    exact List.not_mem_nil
  | cons a rest ih =>
    rw [List.splitOn_cons_eq_if_modifyHead] at h
    split_ifs at h with ha
    · rcases List.mem_cons.mp h with rfl | h
      · exact List.not_mem_nil
      · exact ih h
    · rcases hrest : rest.splitOn sep with _ | ⟨first, segments⟩
      · exact absurd hrest (List.splitOn_ne_nil sep rest)
      · rw [hrest] at h ih
        rcases List.mem_cons.mp h with rfl | h
        · have hfirst := ih (List.mem_cons_self ..)
          rw [List.mem_cons, not_or]
          exact ⟨fun heq => ha (by rw [heq]; exact beq_self_eq_true a), hfirst⟩
        · exact ih (List.mem_cons_of_mem _ h)

/-- No value that is read contains the separator. -/
theorem mem_read {text : List α} {pairs : List (List α × List α)} {pair : List α × List α}
    (h : read sep eq text = some pairs) (hp : pair ∈ pairs) : sep ∉ pair.2 := by
  have hsegment : pairText eq pair ∈ text.splitOn sep := by
    rw [← map_pairText_readPairs h]
    exact List.mem_map_of_mem hp
  have hnot := not_mem_of_mem_splitOn hsegment
  rw [pairText, List.mem_append, List.mem_cons, not_or, not_or] at hnot
  exact hnot.2.2

end

/-- The order of the pairs does not change the length of their text. -/
theorem length_write_perm {pairs pairs' : List (List α × List α)} (h : pairs.Perm pairs') :
    (write sep eq pairs).length = (write sep eq pairs').length := by
  have hlen : ∀ segments : List (List α), ([sep].intercalate segments).length =
      (segments.map List.length).sum + (segments.length - 1) := by
    intro segments
    induction segments with
    | nil => rfl
    | cons segment rest ih =>
      cases rest with
      | nil => simp
      | cons next rest =>
        rw [List.intercalate_cons_cons, List.length_append, List.length_append, ih]
        simp
        omega
  rw [write, write, hlen, hlen, List.length_map, List.length_map, h.length_eq,
    ((h.map _).map _).sum_nat]

end KeyValue
