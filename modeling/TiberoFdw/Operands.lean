import TiberoFdw.Lib.Terms
import TiberoFdw.Lib.OperatorRuns
import TiberoFdw.Constants
import TiberoFdw.Datetimes

/-!
# The operands of a condition

What stands between the operators of a condition: columns, numbers, strings, and calls for
dates and timestamps. The reader of an operand decides by the first character; **the
operands have the syntax that the reader of terms relies on** (`operandSyntax`).
-/

namespace TiberoFdw

open SqlText (isOperatorChar isWordChar Call)
open Terms (Follows IsPrefixName OperandSyntax)

/-- An operand of a condition, as it is read from a text. -/
inductive Operand : Type where
  /-- a column, by its remote name -/
  | column (name : Text)
  /-- the system column `ctid` -/
  | rowid
  /-- a number, by its literal -/
  | number (literal : Text)
  /-- a string, by its content -/
  | string (s : Text)
  /-- a date or a timestamp, by its call -/
  | call (call : Call)
  deriving DecidableEq

namespace Operand

/-- The text of an operand. Calls stand in parentheses but for those with a time zone. -/
def text (pg : Postgres) : Operand → Text
  | column name => pg.quoteIdentifier name
  | rowid => "ROWID".toList
  | number literal => literal
  | string s => '\'' :: (SqlText.escape '\'' s ++ ['\''])
  | call c =>
    if c.name = "TO_TIMESTAMP_TZ".toList then c.text else '(' :: (c.text ++ [')'])

/-- The operands that are written. -/
def IsWritten : Operand → Prop
  | number literal => ∃ n : Numeral, n.WellFormed ∧ n.text = literal
  | call c => c.name ∈ constantFunctions
  | _ => True

/-! ## Reading -/

/-- Read a word: the name of a column, or `ROWID`. -/
def readWord (text : Text) : Operand × Text :=
  (if text.takeWhile isWordChar = "ROWID".toList then rowid else column (text.takeWhile isWordChar),
    text.dropWhile isWordChar)

/-- Read an operand, and what follows it. -/
def read (text : Text) : Option (Operand × Text) :=
  match text with
  | [] => none
  | c :: rest =>
    if c = '\'' then (SqlText.readQuoted '\'' rest).map fun (s, rest) => (string s, rest)
    else if c = '"' then (SqlText.readQuoted '"' rest).map fun (s, rest) => (column s, rest)
    else if c = '(' then (SqlText.readCallTerm text).map fun (c, rest) => (call c, rest)
    else if c.isAlpha || c == '_' then
      match SqlText.readCall text with
      | some (c, rest) => some (call c, rest)
      | none => some (readWord text)
    else
      (Numeral.read text).map fun (_, rest) =>
        (number (text.take (text.length - rest.length)), rest)

/-! ## What follows an operand -/

theorem not_quote_of_follows {rest : Text} (h : Follows rest) {q : Char} (hblank : q ≠ ' ')
    (hclose : q ≠ ')') : rest.head? ≠ some q := by
  intro hhead
  rcases h q hhead with rfl | rfl
  · exact hblank rfl
  · exact hclose rfl

theorem ends_of_follows {rest : Text} (h : Follows rest) : Numeral.Ends rest := by
  intro c hc
  rcases h c hc with rfl | rfl <;> decide

/-- A word ends where it is followed. -/
theorem word_append {w rest : Text} (hword : ∀ c ∈ w, isWordChar c = true) (h : Follows rest) :
    (w ++ rest).takeWhile isWordChar = w ∧ (w ++ rest).dropWhile isWordChar = rest := by
  rw [List.takeWhile_append_of_pos hword, List.dropWhile_append_of_pos hword]
  cases rest with
  | nil => exact ⟨List.append_nil w, rfl⟩
  | cons c rest =>
    have hc : isWordChar c = false := by
      rcases h c rfl with rfl | rfl <;> decide
    simp [hc]

/-! ## What is no call -/

/-- A word that is followed is no call. -/
theorem readCall_word {w rest : Text} (hword : ∀ c ∈ w, isWordChar c = true) (h : Follows rest) :
    SqlText.readCall (w ++ rest) = none := by
  rw [SqlText.readCall, (word_append hword h).2]
  split
  · rcases h '(' rfl with heq | heq <;> exact absurd heq (by decide)
  · rfl

/-- A text without an opening parenthesis up to a blank is no call. -/
theorem readCall_eq_none {s : Text} (h : '(' ∉ s) (rest : Text) :
    SqlText.readCall (s ++ ' ' :: rest) = none := by
  have hdrop : ∃ c after, (s ++ ' ' :: rest).dropWhile isWordChar = c :: after ∧ c ≠ '(' := by
    induction s with
    | nil => exact ⟨' ', rest, rfl, by decide⟩
    | cons c s ih =>
      rw [List.mem_cons, not_or] at h
      rcases hc : isWordChar c with _ | _
      · exact ⟨c, s ++ ' ' :: rest, by simp [hc], Ne.symm h.1⟩
      · obtain ⟨d, after, hrest, hd⟩ := ih h.2
        exact ⟨d, after, by simpa [hc] using hrest, hd⟩
  obtain ⟨c, after, hrest, hc⟩ := hdrop
  rw [SqlText.readCall, hrest]
  split
  · rename_i heq
    exact absurd (List.cons.inj heq).1 hc
  · rfl

/-- A text that starts with something else than a word is no call. -/
theorem readCall_eq_none_of_head {c : Char} (hc : isWordChar c = false) (rest : Text) :
    SqlText.readCall (c :: rest) = none := by
  have hdrop : (c :: rest).dropWhile isWordChar = c :: rest := by simp [hc]
  have htake : (c :: rest).takeWhile isWordChar = [] := by simp [hc]
  rw [SqlText.readCall, hdrop, htake]
  split
  · rfl
  · rfl

theorem readCallTerm_eq_none {text : Text} (h : SqlText.readCall text = none) :
    SqlText.readCallTerm ('(' :: text) = none := by
  rw [SqlText.readCallTerm, h]
  rfl

/-! ## Reading by the first character -/

theorem read_string {rest : Text} :
    read ('\'' :: rest) = (SqlText.readQuoted '\'' rest).map fun (s, rest) => (string s, rest) := by
  rw [read, if_pos rfl]

theorem read_quoted {rest : Text} :
    read ('"' :: rest) = (SqlText.readQuoted '"' rest).map fun (s, rest) => (column s, rest) := by
  rw [read, if_neg (by decide), if_pos rfl]

theorem read_open {rest : Text} :
    read ('(' :: rest) =
      (SqlText.readCallTerm ('(' :: rest)).map fun (c, rest) => (call c, rest) := by
  rw [read, if_neg (by decide), if_neg (by decide), if_pos rfl]

/-- A letter or an underscore opens neither quotes nor parentheses. -/
theorem not_opening {c : Char} (hc : c.isAlpha = true ∨ c = '_') :
    c ≠ '\'' ∧ c ≠ '"' ∧ c ≠ '(' := by
  refine ⟨?_, ?_, ?_⟩ <;> rintro rfl <;> exact absurd hc (by decide)

/-- Behind a letter or an underscore, without a call. -/
theorem read_word {c : Char} (hc : c.isAlpha = true ∨ c = '_') {rest : Text}
    (hcall : SqlText.readCall (c :: rest) = none) :
    read (c :: rest) = some (readWord (c :: rest)) := by
  have hne := not_opening hc
  rw [read, if_neg hne.1, if_neg hne.2.1, if_neg hne.2.2, if_pos (by simpa using hc), hcall]

/-- Behind a letter or an underscore, with a call. -/
theorem read_call {c : Char} (hc : c.isAlpha = true ∨ c = '_') {rest after : Text} {k : Call}
    (hcall : SqlText.readCall (c :: rest) = some (k, after)) :
    read (c :: rest) = some (call k, after) := by
  have hne := not_opening hc
  rw [read, if_neg hne.1, if_neg hne.2.1, if_neg hne.2.2, if_pos (by simpa using hc), hcall]

/-- Behind any other character. -/
theorem read_number {c : Char}
    (hc : c ≠ '\'' ∧ c ≠ '"' ∧ c ≠ '(' ∧ c.isAlpha = false ∧ c ≠ '_') (rest : Text) :
    read (c :: rest) = (Numeral.read (c :: rest)).map fun (_, after) =>
      (number ((c :: rest).take ((c :: rest).length - after.length)), after) := by
  have hword : ¬ (c.isAlpha || c == '_') = true := by simp [hc.2.2.2.1, hc.2.2.2.2]
  rw [read, if_neg hc.1, if_neg hc.2.1, if_neg hc.2.2.1, if_neg hword]

/-- The characters that operators are made of start nothing else but numbers. -/
theorem number_start_of_isOperatorChar {c : Char} (hc : isOperatorChar c = true) :
    (c ≠ '\'' ∧ c ≠ '"' ∧ c ≠ '(' ∧ c.isAlpha = false ∧ c ≠ '_') ∧ isWordChar c = false ∧
      c.isDigit = false ∧ c ≠ '.' := by
  rw [isOperatorChar, List.contains_iff_mem] at hc
  have hall : (SqlText.operatorChars.all fun d => decide
      ((d ≠ '\'' ∧ d ≠ '"' ∧ d ≠ '(' ∧ d.isAlpha = false ∧ d ≠ '_') ∧ isWordChar d = false ∧
        d.isDigit = false ∧ d ≠ '.')) = true := by decide
  exact of_decide_eq_true (List.all_eq_true.mp hall c hc)

/-! ## Operands are read back -/

theorem read_column (pg : Postgres) (name : Text) {rest : Text} (hrest : Follows rest) :
    read (pg.quoteIdentifier name ++ rest) = some (column name, rest) := by
  rw [Postgres.quoteIdentifier]
  by_cases hsafe : pg.identIsSafe name = true
  · rw [if_pos hsafe]
    simp only [Postgres.identIsSafe, Bool.and_eq_true] at hsafe
    obtain ⟨⟨⟨-, hhead⟩, hall⟩, -⟩ := hsafe
    have hword : ∀ c ∈ name, isWordChar c = true :=
      fun c hc => isWordChar_of_isIdentChar (List.all_eq_true.mp hall c hc)
    rcases name with _ | ⟨c, name⟩
    · cases hhead
    have hstart : c.isLower = true ∨ c = '_' := by simpa [isIdentStart] using hhead
    have halpha : c.isAlpha = true ∨ c = '_' := hstart.imp_left (Bool.or_eq_true_iff.mpr ∘ .inr)
    -- a safe name is in lower case
    have hne : c :: name ≠ "ROWID".toList := by
      intro heq
      obtain rfl : c = 'R' := (List.cons.inj heq).1
      exact absurd hstart (by decide)
    have hread := word_append hword hrest
    have hcall := readCall_word hword hrest
    rw [List.cons_append] at hread hcall ⊢
    rw [read_word halpha hcall, readWord, hread.1, hread.2, if_neg hne]
  · rw [if_neg hsafe, List.cons_append, List.append_assoc, read_quoted]
    have hread := SqlText.readQuoted_escape name
      (not_quote_of_follows hrest (q := '"') (by decide) (by decide))
    rw [List.singleton_append, hread]
    rfl

theorem rowid_isWord : ∀ c ∈ "ROWID".toList, isWordChar c = true := by
  have hall : "ROWID".toList.all isWordChar = true := by decide
  exact List.all_eq_true.mp hall

theorem read_rowid {rest : Text} (hrest : Follows rest) :
    read ("ROWID".toList ++ rest) = some (rowid, rest) := by
  have hread := word_append rowid_isWord hrest
  have hsplit : "ROWID".toList ++ rest = 'R' :: ("OWID".toList ++ rest) := rfl
  have hcall := readCall_word rowid_isWord hrest
  rw [hsplit] at hread hcall ⊢
  rw [read_word (.inl (by decide)) hcall, readWord, hread.1, hread.2, if_pos rfl]

theorem read_numeral {n : Numeral} (hn : n.WellFormed) {rest : Text} (hrest : Follows rest) :
    read (n.text ++ rest) = some (number n.text, rest) := by
  have hread := Numeral.read_text hn (ends_of_follows hrest)
  obtain ⟨c, digits, htext, hc⟩ := Numeral.text_cons hn
  have hstart : c ≠ '\'' ∧ c ≠ '"' ∧ c ≠ '(' ∧ c.isAlpha = false ∧ c ≠ '_' := by
    rcases hc with rfl | hdigit
    · decide
    · refine ⟨?_, ?_, ?_, not_isAlpha_of_isDigit hdigit, ?_⟩ <;> rintro rfl <;> cases hdigit
  rw [htext, List.cons_append] at hread ⊢
  have htake : (c :: (digits ++ rest)).take ((c :: (digits ++ rest)).length - rest.length) =
      c :: digits := by
    rw [← List.cons_append, List.length_append, Nat.add_sub_cancel, List.take_left]
  rw [read_number hstart, hread, Option.map_some]
  dsimp only
  rw [htake]

theorem read_literal (s : Text) {rest : Text} (hrest : Follows rest) :
    read ('\'' :: (SqlText.escape '\'' s ++ ['\''] ++ rest)) = some (string s, rest) := by
  have hread := SqlText.readQuoted_escape s
    (not_quote_of_follows hrest (q := '\'') (by decide) (by decide))
  rw [read_string, List.append_assoc, List.singleton_append, hread]
  rfl

theorem read_callText {k : Call} (hname : k.name ∈ constantFunctions) (rest : Text) :
    read (k.text ++ rest) = some (call k, rest) := by
  have hword := constantFunctions_isWord k.name hname
  have hread := SqlText.readCall_text hword.1 hword.2 rest
  have hhead : ∀ name ∈ constantFunctions, name.head? = some 'T' := by decide
  obtain ⟨name, htext⟩ := List.head?_eq_some_iff.mp (hhead k.name hname)
  rw [Call.text, htext, List.cons_append, List.cons_append] at hread ⊢
  exact read_call (.inl (by decide)) hread

/-- **An operand is read back** from its text. -/
theorem read_text {pg : Postgres} {a : Operand} (ha : a.IsWritten) {rest : Text}
    (hrest : Follows rest) : read (a.text pg ++ rest) = some (a, rest) := by
  cases a with
  | column name => exact read_column pg name hrest
  | rowid => exact read_rowid hrest
  | number literal =>
    obtain ⟨n, hn, rfl⟩ := ha
    exact read_numeral hn hrest
  | string s => exact read_literal s hrest
  | call k =>
    rw [text]
    split_ifs
    · exact read_callText ha rest
    · have hword := constantFunctions_isWord k.name ha
      have hread := SqlText.readCallTerm_parenthesised hword.1 hword.2 rest
      rw [List.cons_append, List.append_assoc, List.singleton_append, read_open, hread]
      rfl

/-! ## Nothing else is an operand -/

/-- An operator is no operand. -/
theorem read_operator {op : Text} (h : IsPrefixName isOperatorChar op) (rest : Text) :
    read (op ++ ' ' :: rest) = none := by
  obtain ⟨c, op, rfl⟩ := List.exists_cons_of_ne_nil h.ne
  have hall := List.all_eq_true.mp h.all
  have hstart := number_start_of_isOperatorChar (hall c (List.mem_cons_self ..))
  have hnone : Numeral.read (c :: (op ++ ' ' :: rest)) = none := by
    apply Numeral.read_eq_none
    intro d hd
    -- a sign may be the first character of the operator
    rcases Numeral.readSign_cons c (op ++ ' ' :: rest) with hsign | hsign
    · rw [hsign] at hd
      rcases op with _ | ⟨c', op⟩
      · obtain rfl : ' ' = d := Option.some.inj hd
        decide
      · obtain rfl : c' = d := Option.some.inj hd
        exact (number_start_of_isOperatorChar (hall c' (by simp))).2.2
    · rw [hsign] at hd
      obtain rfl : c = d := Option.some.inj hd
      exact hstart.2.2
  rw [List.cons_append, read_number hstart.1, hnone, Option.map_none]

/-- An operand as first argument is not in parentheses of its own. -/
theorem read_open_text {pg : Postgres} {a : Operand} (ha : a.IsWritten) (rest : Text) :
    read ('(' :: (a.text pg ++ ' ' :: rest)) = none := by
  rw [read_open, Option.map_eq_none_iff]
  cases a with
  | column name =>
    apply readCallTerm_eq_none
    rw [text, Postgres.quoteIdentifier]
    by_cases hsafe : pg.identIsSafe name = true
    · rw [if_pos hsafe]
      simp only [Postgres.identIsSafe, Bool.and_eq_true] at hsafe
      exact readCall_word (fun c hc => isWordChar_of_isIdentChar
        (List.all_eq_true.mp hsafe.1.2 c hc)) (Terms.follows_blank rest)
    · rw [if_neg hsafe]
      exact readCall_eq_none_of_head (by decide) _
  | rowid =>
    exact readCallTerm_eq_none (readCall_word rowid_isWord (Terms.follows_blank rest))
  | number literal =>
    obtain ⟨n, hn, rfl⟩ := ha
    apply readCallTerm_eq_none
    apply readCall_eq_none
    intro hmem
    exact absurd (Numeral.mem_text hn hmem) (by decide)
  | string s => exact readCallTerm_eq_none (readCall_eq_none_of_head (by decide) _)
  | call k =>
    rw [text]
    split_ifs
    · -- the call ends at the blank
      have hword := constantFunctions_isWord k.name ha
      rw [SqlText.readCallTerm, SqlText.readCall_text hword.1 hword.2]
      rfl
    · exact readCallTerm_eq_none (readCall_eq_none_of_head (by decide) _)

theorem text_ne {pg : Postgres} {a : Operand} (ha : a.IsWritten) : a.text pg ≠ [] := by
  cases a with
  | column name =>
    rw [text, Postgres.quoteIdentifier]
    split_ifs with hsafe
    · rintro rfl
      simp [Postgres.identIsSafe] at hsafe
    · exact List.cons_ne_nil _ _
  | rowid => exact List.cons_ne_nil _ _
  | number literal =>
    obtain ⟨n, hn, rfl⟩ := ha
    obtain ⟨c, rest, htext, -⟩ := Numeral.text_cons hn
    rw [text, htext]
    exact List.cons_ne_nil _ _
  | string s => exact List.cons_ne_nil _ _
  | call k =>
    rw [text]
    split_ifs
    · rw [Call.text]
      simp
    · exact List.cons_ne_nil _ _

/-- **Operands have the syntax that terms rely on.** -/
theorem operandSyntax (pg : Postgres) :
    OperandSyntax read isOperatorChar (Operand.text pg) IsWritten where
  text_ne a ha := text_ne ha
  read_text _ ha _ hrest := read_text ha hrest
  read_name _ h rest := read_operator h rest
  read_open_name c hc rest := by
    rw [read_open, readCallTerm_eq_none
      (readCall_eq_none_of_head (number_start_of_isOperatorChar hc).2.1 rest)]
    rfl
  read_open_open rest := by
    rw [read_open, readCallTerm_eq_none (readCall_eq_none_of_head (by decide) rest)]
    rfl
  read_open_text _ ha rest := read_open_text ha rest
  name_open := by decide
  name_blank := by decide

end Operand

end TiberoFdw
