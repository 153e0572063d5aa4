import TiberoFdw.Lib.SqlText

/-!
# Parameter markers

The question marks of an SQL text that stand outside string literals and quoted
identifiers. A fold over the characters remembers whether it is inside quotes; a
doubled quote leaves the quotes and enters them again, which counts nothing.
`Marks` says of a piece of text that is read from outside quotes that it ends
outside quotes again, and how many markers it has; the counts of pieces add up.
-/

namespace SqlText

/-- Where the fold is: outside quotes, or inside the quotes it has met. -/
inductive Quoting : Type where
  | plain
  | inside (q : Char)
  deriving DecidableEq

/-- A character that opens and closes a quoted token. -/
def isQuote (c : Char) : Bool := c == '\'' || c == '"'

/-- Read one character. -/
def markStep (s : Quoting × Nat) (c : Char) : Quoting × Nat :=
  match s.1 with
  | .plain => if isQuote c then (.inside c, s.2) else (.plain, if c = '?' then s.2 + 1 else s.2)
  | .inside q => if c = q then (.plain, s.2) else s

theorem markStep_open {q : Char} (hq : isQuote q = true) (n : Nat) :
    markStep (.plain, n) q = (.inside q, n) :=
  if_pos hq

theorem markStep_close (q : Char) (n : Nat) : markStep (.inside q, n) q = (.plain, n) :=
  if_pos rfl

theorem markStep_inside {q c : Char} (hc : c ≠ q) (n : Nat) :
    markStep (.inside q, n) c = (.inside q, n) :=
  if_neg hc

theorem markStep_plain {c : Char} (hc : isQuote c = false) (n : Nat) :
    markStep (.plain, n) c = (.plain, if c = '?' then n + 1 else n) :=
  if_neg (by simp [hc])

/-- The number of parameter markers of a text. -/
def markers (text : List Char) : Nat := (text.foldl markStep (.plain, 0)).2

/-- The piece, read from outside quotes, has `n` markers and ends outside quotes. -/
def Marks (text : List Char) (n : Nat) : Prop :=
  ∀ before, text.foldl markStep (.plain, before) = (.plain, before + n)

theorem Marks.markers_eq {text : List Char} {n : Nat} (h : Marks text n) : markers text = n := by
  rw [markers, h 0, Nat.zero_add]

theorem Marks.nil : Marks [] 0 := fun _ => rfl

theorem Marks.append {a b : List Char} {m n : Nat} (ha : Marks a m) (hb : Marks b n) :
    Marks (a ++ b) (m + n) := by
  intro before
  rw [List.foldl_append, ha before, hb (before + m), Nat.add_assoc]

/-- The count before a text is added to the markers of the text. -/
theorem foldl_markStep_add (text : List Char) (quoting : Quoting) (n before : Nat) :
    text.foldl markStep (quoting, before + n) =
      ((text.foldl markStep (quoting, n)).1, before + (text.foldl markStep (quoting, n)).2) := by
  induction text generalizing quoting n with
  | nil => rfl
  | cons c rest ih =>
    rw [List.foldl_cons, List.foldl_cons]
    cases quoting with
    | plain =>
      rcases hc : isQuote c with _ | _
      · rw [markStep_plain hc, markStep_plain hc]
        split_ifs
        · exact ih .plain (n + 1)
        · exact ih .plain n
      · rw [markStep_open hc, markStep_open hc]
        exact ih (.inside c) n
    | inside q =>
      by_cases hc : c = q
      · rw [hc, markStep_close, markStep_close]
        exact ih .plain n
      · rw [markStep_inside hc, markStep_inside hc]
        exact ih (.inside q) n

/-- A text that is given can be read to count its markers. -/
theorem marks_of_foldl {text : List Char} {n : Nat}
    (h : text.foldl markStep (.plain, 0) = (.plain, n)) : Marks text n := by
  intro before
  have hadd := foldl_markStep_add text .plain 0 before
  rw [h] at hadd
  exact hadd

/-- Without quotes every question mark is a marker. -/
theorem marks_plain {text : List Char} (h : ∀ c ∈ text, isQuote c = false) :
    Marks text (text.count '?') := by
  induction text with
  | nil => exact .nil
  | cons c rest ih =>
    intro before
    have hc : isQuote c = false := h c (List.mem_cons_self ..)
    have hrest := ih fun d hd => h d (List.mem_cons_of_mem _ hd)
    rw [List.foldl_cons, markStep_plain hc, hrest, List.count_cons]
    by_cases hmark : c = '?'
    · rw [if_pos hmark, if_pos (beq_iff_eq.mpr hmark), Nat.add_assoc, Nat.add_comm 1]
    · rw [if_neg hmark, if_neg (by simpa using hmark), Nat.add_zero]

/-- A text without quotes and question marks. -/
def Plain (text : List Char) : Prop := ∀ c ∈ text, isQuote c = false ∧ c ≠ '?'

namespace Plain

variable {a b : List Char} {c : Char}

theorem append (ha : Plain a) (hb : Plain b) : Plain (a ++ b) := by
  intro c hc
  rcases List.mem_append.mp hc with hc | hc
  · exact ha c hc
  · exact hb c hc

theorem cons (hc : isQuote c = false ∧ c ≠ '?') (ha : Plain a) : Plain (c :: a) :=
  List.forall_mem_cons.mpr ⟨hc, ha⟩

theorem not_mem {q : Char} (ha : Plain a) (hq : isQuote q = true) : q ∉ a := by
  intro hmem
  rw [(ha q hmem).1] at hq
  cases hq

theorem marks (ha : Plain a) : Marks a 0 := by
  have hcount : a.count '?' = 0 := by
    rw [List.count_eq_zero]
    exact fun hmem => (ha '?' hmem).2 rfl
  rw [← hcount]
  exact marks_plain fun c hc => (ha c hc).1

end Plain

/-- Inside quotes nothing counts but the closing quote. -/
theorem foldl_escape (q : Char) (s : List Char) (hq : isQuote q = true) (before : Nat) :
    (escape q s).foldl markStep (.inside q, before) = (.inside q, before) := by
  induction s with
  | nil => rfl
  | cons c rest ih =>
    rw [escape]
    by_cases hc : c = q
    · -- the quote is left and entered again
      rw [if_pos hc, List.foldl_cons, List.foldl_cons, markStep_close, markStep_open hq, ih]
    · rw [if_neg hc, List.foldl_cons, markStep_inside hc, ih]

/-- Quoted text has no markers. -/
theorem marks_quoted {q : Char} (hq : isQuote q = true) (s : List Char) :
    Marks (q :: (escape q s ++ [q])) 0 := by
  intro before
  rw [List.foldl_cons, markStep_open hq, List.foldl_append, foldl_escape q s hq, List.foldl_cons,
    markStep_close]
  rfl

/-- Inside quotes, a text without the closing quote counts nothing. -/
theorem foldl_inside {q : Char} {body : List Char} (h : q ∉ body) (before : Nat) :
    body.foldl markStep (.inside q, before) = (.inside q, before) := by
  induction body with
  | nil => rfl
  | cons c rest ih =>
    rw [List.mem_cons, not_or] at h
    rw [List.foldl_cons, markStep_inside (Ne.symm h.1), ih h.2]

/-- A text that opens a quote, one inside it, and one that closes it. -/
theorem marks_around {q : Char} {opening body closing : List Char}
    (hopening : opening.foldl markStep (.plain, 0) = (.inside q, 0)) (hbody : q ∉ body)
    (hclosing : closing.foldl markStep (.inside q, 0) = (.plain, 0)) :
    Marks (opening ++ body ++ closing) 0 := by
  apply marks_of_foldl
  rw [List.foldl_append, List.foldl_append, hopening, foldl_inside hbody, hclosing]

end SqlText
