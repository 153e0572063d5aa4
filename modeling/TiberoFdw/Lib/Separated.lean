import Mathlib.Data.List.Basic

/-!
# Separated lists

Items with a separator between them, in front of any rest. The reader takes an item, and goes
on as long as the separator follows. What it relies on is that an item is read back where
something follows that may follow an item; **then the list is read back** (`read_text`).
-/

namespace Separated

variable {α : Type}

/-- Read items with a separator between them, and what follows them. -/
def readList (readItem : List Char → Option (α × List Char)) (sep : List Char) :
    Nat → List Char → Option (List α × List Char)
  | 0, _ => none
  | fuel + 1, text =>
    (readItem text).bind fun (a, rest) =>
      match rest.dropPrefix? sep with
      | some rest =>
        (readList readItem sep fuel rest).map fun (items, rest) => (a :: items, rest)
      | none => some ([a], rest)

/-- Read a list with as much fuel as the text has characters. -/
def read (readItem : List Char → Option (α × List Char)) (sep text : List Char) :
    Option (List α × List Char) :=
  readList readItem sep text.length text

/-- An item is read back where something follows that may follow it. -/
structure ItemSyntax (readItem : List Char → Option (α × List Char)) (sep : List Char)
    (itemText : α → List Char) (Follows : List Char → Prop) (isItem : α → Prop) : Prop where
  text_ne : ∀ a, isItem a → itemText a ≠ []
  read_text : ∀ a, isItem a → ∀ rest, Follows rest → readItem (itemText a ++ rest) = some (a, rest)
  follows_sep : ∀ rest, Follows (sep ++ rest)

/-- A text that starts with the prefix. -/
theorem dropPrefix?_append (p rest : List Char) : (p ++ rest).dropPrefix? p = some rest :=
  List.dropPrefix?_append_of_beq rest (beq_self_eq_true p)

section

variable {readItem : List Char → Option (α × List Char)} {sep : List Char}
  {itemText : α → List Char} {Follows : List Char → Prop} {isItem : α → Prop}

/-- A list is at least as long as the number of its items. -/
theorem length_le_text (hs : ItemSyntax readItem sep itemText Follows isItem) {items : List α}
    (hitems : ∀ a ∈ items, isItem a) :
    items.length ≤ (List.intercalate sep (items.map itemText)).length := by
  induction items with
  | nil => exact Nat.le_refl 0
  | cons a items ih =>
    have hne := List.length_pos_iff.mpr (hs.text_ne a (hitems a (List.mem_cons_self ..)))
    have hrest := ih fun b hb => hitems b (List.mem_cons_of_mem _ hb)
    rcases items with _ | ⟨b, items⟩
    · rw [List.map_singleton, List.intercalate_singleton]
      exact hne
    · rw [List.map_cons, List.map_cons, List.intercalate_cons_cons, ← List.map_cons,
        List.length_append, List.length_append, List.length_cons]
      omega

theorem readList_append (hs : ItemSyntax readItem sep itemText Follows isItem) {items : List α}
    (hne : items ≠ []) (hitems : ∀ a ∈ items, isItem a) {rest : List Char} (hrest : Follows rest)
    (hend : rest.dropPrefix? sep = none) {fuel : Nat} (hfuel : items.length ≤ fuel) :
    readList readItem sep fuel (List.intercalate sep (items.map itemText) ++ rest) =
      some (items, rest) := by
  -- the induction is on the items, with the separator after all but the last
  induction items generalizing fuel with
  | nil => exact absurd rfl hne
  | cons a items ih =>
    obtain ⟨fuel, rfl⟩ := Nat.exists_eq_add_of_le' hfuel
    have ha := hs.read_text a (hitems a (List.mem_cons_self ..))
    rcases items with _ | ⟨b, items⟩
    · rw [List.map_singleton, List.intercalate_singleton, List.length_singleton, readList,
        ha rest hrest, Option.bind_some]
      dsimp only
      rw [hend]
    · have hih := ih (List.cons_ne_nil _ _) (fun c hc => hitems c (List.mem_cons_of_mem _ hc))
        (Nat.le_add_left (b :: items).length fuel)
      have htext : List.intercalate sep ((a :: b :: items).map itemText) ++ rest =
          itemText a ++ (sep ++ (List.intercalate sep ((b :: items).map itemText) ++ rest)) := by
        rw [List.map_cons, List.map_cons, List.intercalate_cons_cons, ← List.map_cons]
        simp only [List.append_assoc]
      rw [htext, List.length_cons, ← Nat.add_assoc, readList, ha _ (hs.follows_sep _),
        Option.bind_some]
      dsimp only
      rw [dropPrefix?_append]
      dsimp only
      rw [hih]
      rfl

/-- **A list is read back** from its text. -/
theorem read_text (hs : ItemSyntax readItem sep itemText Follows isItem) {items : List α}
    (hne : items ≠ []) (hitems : ∀ a ∈ items, isItem a) {rest : List Char} (hrest : Follows rest)
    (hend : rest.dropPrefix? sep = none) :
    read readItem sep (List.intercalate sep (items.map itemText) ++ rest) =
      some (items, rest) := by
  refine readList_append hs hne hitems hrest hend ?_
  rw [List.length_append]
  exact Nat.le_trans (length_le_text hs hitems) (Nat.le_add_right ..)

end

end Separated
