import Mathlib.Data.List.TakeWhile

/-!
# Buffers of cells

A buffer that is divided into cells of one width, with a terminated string in each cell. Three
layers:

* `writeAt` / `readString` — the memory: a write that does not fit into the buffer fails, and so
  does reading a string whose terminator is not in the buffer;
* `storeCell` — a text is cut to the width of its cell, with room for the terminator;
* `storeCells` — one cell after another; a cell without a text keeps what it held. Every text is
  read back, cut to the width (`readString_storeCells`).
-/

section

/-! ## Memory -/

variable {α : Type*}

/-- Write into the buffer, from a position on. -/
def writeAt (buf : List α) (pos : Nat) (chars : List α) : Option (List α) :=
  if pos + chars.length ≤ buf.length then
    some (buf.take pos ++ (chars ++ buf.drop (pos + chars.length)))
  else none

/-- A write that fits: the buffer keeps its length, and what is before the position. -/
theorem writeAt_ok {buf : List α} {pos : Nat} {chars : List α}
    (hfits : pos + chars.length ≤ buf.length) :
    ∃ buf', writeAt buf pos chars = some buf' ∧ buf'.length = buf.length ∧
      buf'.take pos = buf.take pos ∧ buf'.drop pos = chars ++ buf.drop (pos + chars.length) := by
  have hpos : (buf.take pos).length = pos := List.length_take_of_le (by omega)
  refine ⟨_, if_pos hfits, ?_, ?_, ?_⟩
  · simp only [List.length_append, List.length_take, List.length_drop]
    omega
  · exact List.take_left' hpos
  · exact List.drop_left' hpos

variable [DecidableEq α]

/-- The string at a position of the buffer. -/
def readString (terminator : α) (buf : List α) (pos : Nat) : Option (List α) :=
  if (buf.drop pos).contains terminator then
    some ((buf.drop pos).takeWhile (· ≠ terminator))
  else none

/-- What is left of a text in a cell of that width. -/
def cutTo (terminator : α) (width : Nat) (text : List α) : List α :=
  (text.take (width - 1)).takeWhile (· ≠ terminator)

/-- Store a text in the `i`-th cell. -/
def storeCell (terminator : α) (width : Nat) (buf : List α) (i : Nat) (text : List α) :
    Option (List α) :=
  if width = 0 then some buf
  else writeAt buf (i * width) (text.take (width - 1) ++ [terminator])

/-- Store texts from the `i`-th cell on. -/
def storeCells (terminator : α) (width : Nat) :
    List α → Nat → List (Option (List α)) → Option (List α)
  | buf, _, [] => some buf
  | buf, i, none :: rest => storeCells terminator width buf (i + 1) rest
  | buf, i, some text :: rest =>
    (storeCell terminator width buf i text).bind fun buf =>
      storeCells terminator width buf (i + 1) rest

/-! ## Reading -/

variable {terminator : α} {width : Nat} {buf buf' : List α}

/-- A text that fits is left whole. -/
theorem cutTo_eq_self {text : List α} (hfits : text.length < width) (hplain : terminator ∉ text) :
    cutTo terminator width text = text := by
  rw [cutTo, List.take_of_length_le (by omega)]
  refine List.takeWhile_eq_self_iff.mpr fun c hc => ?_
  rw [decide_eq_true_eq]
  rintro rfl
  exact hplain hc

/-- A string that stands in the buffer with its terminator. -/
theorem readString_of_drop {pos : Nat} {text rest : List α}
    (h : buf.drop pos = text ++ terminator :: rest) :
    readString terminator buf pos = some (text.takeWhile (· ≠ terminator)) := by
  have hmem : terminator ∈ buf.drop pos := by simp [h]
  rw [readString, if_pos (List.contains_iff_mem.mpr hmem), h, List.takeWhile_append]
  split_ifs with hall
  · -- the text has no terminator of its own
    rw [List.takeWhile_cons_of_neg (by simp), List.append_nil,
      (List.takeWhile_prefix _).eq_of_length hall]
  · rfl

/-- Memory behind the string does not matter. -/
theorem readString_append {pos : Nat} {text : List α} (more : List α)
    (h : readString terminator buf pos = some text) :
    readString terminator (buf ++ more) pos = some text := by
  rw [readString] at h
  split_ifs at h with hmem
  cases h
  have hmem' : terminator ∈ buf.drop pos := List.contains_iff_mem.mp hmem
  obtain ⟨before, after, hdrop⟩ := List.append_of_mem hmem'
  have hlt : pos ≤ buf.length := by
    by_contra hgt
    rw [List.drop_eq_nil_of_le (by omega)] at hmem'
    cases hmem'
  have hmore : (buf ++ more).drop pos = before ++ terminator :: (after ++ more) := by
    rw [List.drop_append_of_le_length hlt, hdrop, List.append_assoc, List.cons_append]
  rw [readString_of_drop hmore, ← readString_of_drop hdrop, readString, if_pos hmem]

/-! ## Storing -/

/-- Storing a text in a cell that is there: it is read back from that cell, and the cells before it
are as they were. -/
theorem storeCell_ok {i : Nat} (text : List α) (hwidth : 0 < width)
    (hcell : (i + 1) * width ≤ buf.length) :
    ∃ buf', storeCell terminator width buf i text = some buf' ∧ buf'.length = buf.length ∧
      buf'.take (i * width) = buf.take (i * width) ∧
      readString terminator (buf'.take ((i + 1) * width)) (i * width) =
        some (cutTo terminator width text) := by
  have hlen : (text.take (width - 1)).length ≤ width - 1 := List.length_take_le ..
  have hnext : (i + 1) * width = i * width + width := Nat.succ_mul ..
  have hfits : i * width + (text.take (width - 1) ++ [terminator]).length ≤ buf.length := by
    rw [List.length_append, List.length_singleton]
    omega
  obtain ⟨buf', hwrite, hlength, htake, hdrop⟩ := writeAt_ok hfits
  refine ⟨buf', by rw [storeCell, if_neg (by omega), hwrite], hlength, htake, ?_⟩
  -- the cell, from its start to its end
  have hcell' : (buf'.take ((i + 1) * width)).drop (i * width) =
      text.take (width - 1) ++ terminator ::
        (buf.drop (i * width + (text.take (width - 1) ++ [terminator]).length)).take
          (width - 1 - (text.take (width - 1)).length) := by
    rw [List.drop_take, hnext, Nat.add_sub_cancel_left, hdrop, List.append_assoc,
      List.take_append, List.take_of_length_le (by omega), List.singleton_append]
    obtain ⟨k, hk⟩ : ∃ k, width - (text.take (width - 1)).length = k + 1 :=
      ⟨width - (text.take (width - 1)).length - 1, by omega⟩
    rw [hk, List.take_succ_cons]
    congr 3
    omega
  exact readString_of_drop hcell'

/-- **Storing a column**: when the buffer has the cells, every write is inside of it, the cells
before the first one are as they were, and every text is read back from its cell, cut to the
width. -/
theorem storeCells_ok (hwidth : 0 < width) {i : Nat} {values : List (Option (List α))}
    (hcells : (i + values.length) * width ≤ buf.length) :
    ∃ buf', storeCells terminator width buf i values = some buf' ∧ buf'.length = buf.length ∧
      buf'.take (i * width) = buf.take (i * width) ∧
      ∀ k text, values[k]? = some (some text) →
        readString terminator (buf'.take ((i + k + 1) * width)) ((i + k) * width) =
          some (cutTo terminator width text) := by
  induction values generalizing buf i with
  | nil => exact ⟨buf, rfl, rfl, rfl, fun k text h => by cases h⟩
  | cons value rest ih =>
    have hcells' : (i + 1 + rest.length) * width ≤ buf.length := by
      rw [List.length_cons] at hcells
      rwa [Nat.add_assoc, Nat.add_comm 1]
    have hbefore : i * width ≤ (i + 1) * width := Nat.mul_le_mul_right width (Nat.le_succ i)
    -- the cells after the first one
    have htail : ∀ {buf' : List α}, (∀ k text, rest[k]? = some (some text) →
        readString terminator (buf'.take ((i + 1 + k + 1) * width)) ((i + 1 + k) * width) =
          some (cutTo terminator width text)) →
        ∀ k text, (value :: rest)[k + 1]? = some (some text) →
          readString terminator (buf'.take ((i + (k + 1) + 1) * width)) ((i + (k + 1)) * width) =
            some (cutTo terminator width text) := by
      intro buf' hread k text hvalue
      rw [← Nat.add_assoc, Nat.add_right_comm i k 1]
      exact hread k text hvalue
    rcases value with _ | text
    · obtain ⟨buf', hstore, hlength, htake, hread⟩ := ih hcells'
      refine ⟨buf', hstore, hlength, ?_, fun k text hvalue => ?_⟩
      · have h := congrArg (List.take (i * width)) htake
        rwa [List.take_take, List.take_take, Nat.min_eq_left hbefore] at h
      · cases k with
        | zero => cases hvalue
        | succ k => exact htail hread k text hvalue
    · have hcell : (i + 1) * width ≤ buf.length :=
        Nat.le_trans (Nat.mul_le_mul_right width (Nat.le_add_right ..)) hcells'
      obtain ⟨buf₁, hfirst, hlength₁, htake₁, hread₁⟩ := storeCell_ok text hwidth hcell
      obtain ⟨buf', hstore, hlength, htake, hread⟩ := ih (hlength₁ ▸ hcells')
      refine ⟨buf', ?_, hlength.trans hlength₁, ?_, fun k text' hvalue => ?_⟩
      · rw [storeCells, hfirst, Option.bind_some, hstore]
      · have h := congrArg (List.take (i * width)) htake
        rw [List.take_take, List.take_take, Nat.min_eq_left hbefore] at h
        exact h.trans htake₁
      · cases k with
        | zero =>
          cases hvalue
          rw [Nat.add_zero, htake]
          exact hread₁
        | succ k => exact htail hread k text' hvalue

/-- Every text is read back from the buffer. -/
theorem readString_storeCells (hwidth : 0 < width) {values : List (Option (List α))}
    (hcells : values.length * width ≤ buf.length) :
    ∃ buf', storeCells terminator width buf 0 values = some buf' ∧ buf'.length = buf.length ∧
      ∀ k text, values[k]? = some (some text) →
        readString terminator buf' (k * width) = some (cutTo terminator width text) := by
  obtain ⟨buf', hstore, hlength, -, hread⟩ :=
    @storeCells_ok _ _ terminator width buf hwidth 0 values (by rwa [Nat.zero_add])
  refine ⟨buf', hstore, hlength, fun k text hvalue => ?_⟩
  have h := readString_append (buf'.drop ((0 + k + 1) * width)) (hread k text hvalue)
  rwa [List.take_append_drop, Nat.zero_add] at h

end
