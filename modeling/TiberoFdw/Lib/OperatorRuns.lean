import TiberoFdw.Lib.Markers

/-!
# Operators in SQL text

The operators of an SQL text are the longest runs of operator characters outside string
literals and quoted identifiers. A fold over the characters collects them, as it counts
markers in `Marks`; here a run may go on in the next piece, so `Runs` says of a piece that
starts at the end of a run which runs it has when the next piece does not continue the last
one. A comment opens with `--`, which is part of a run.
-/

namespace SqlText

/-- The characters that operators are made of. -/
def operatorChars : List Char := "+-*/<>=~!@#%^&|`?".toList

/-- A character that operator names consist of. -/
def isOperatorChar (c : Char) : Bool := operatorChars.contains c

/-- Where the fold is: outside quotes behind a run, which may be empty, or inside quotes. -/
inductive RunMode : Type where
  | plain (run : List Char)
  | inside (q : Char)
  deriving DecidableEq

/-- The run that ends, if there is one. -/
def ended : List Char → List (List Char)
  | [] => []
  | c :: run => [c :: run]

/-- Read one character. -/
def runStep (s : RunMode × List (List Char)) (c : Char) : RunMode × List (List Char) :=
  match s.1 with
  | .plain run =>
    if isOperatorChar c then (.plain (run ++ [c]), s.2)
    else if isQuote c then (.inside c, s.2 ++ ended run)
    else (.plain [], s.2 ++ ended run)
  | .inside q => if c = q then (.plain [], s.2) else s

/-- The runs that are complete when the text ends. -/
def RunMode.flush (s : RunMode × List (List Char)) : List (List Char) :=
  match s.1 with
  | .plain run => s.2 ++ ended run
  | .inside _ => s.2

/-- The operators of a text. -/
def operatorRuns (text : List Char) : List (List Char) :=
  RunMode.flush (text.foldl runStep (.plain [], []))

/-- The piece, read behind the end of a run, has these runs, the last of which may go on, and
ends outside quotes. -/
def Runs (text : List Char) (rs : List (List Char)) : Prop :=
  ∀ before, ∃ run out, text.foldl runStep (.plain [], before) = (.plain run, out) ∧
    out ++ ended run = before ++ rs

theorem Runs.operatorRuns_eq {text : List Char} {rs : List (List Char)} (h : Runs text rs) :
    operatorRuns text = rs := by
  obtain ⟨run, out, hfold, hout⟩ := h []
  rw [operatorRuns, hfold, RunMode.flush]
  exact hout

theorem Runs.nil : Runs [] [] := fun before => ⟨[], before, rfl, rfl⟩

/-- The runs before a step stay. -/
theorem runStep_add (mode : RunMode) (before out : List (List Char)) (c : Char) :
    runStep (mode, before ++ out) c =
      ((runStep (mode, out) c).1, before ++ (runStep (mode, out) c).2) := by
  rw [runStep, runStep]
  cases mode with
  | plain run =>
    dsimp only
    split_ifs
    · rfl
    · rw [List.append_assoc]
    · rw [List.append_assoc]
  | inside q =>
    dsimp only
    split_ifs <;> rfl

theorem foldl_runStep_add (text : List Char) (mode : RunMode) (before out : List (List Char)) :
    text.foldl runStep (mode, before ++ out) =
      ((text.foldl runStep (mode, out)).1, before ++ (text.foldl runStep (mode, out)).2) := by
  induction text generalizing mode out with
  | nil => rfl
  | cons c rest ih =>
    rw [List.foldl_cons, List.foldl_cons, runStep_add]
    exact ih _ _

/-- A piece can be read behind nothing. -/
theorem runs_of_foldl {text run : List Char} {out : List (List Char)}
    (h : text.foldl runStep (.plain [], []) = (.plain run, out)) :
    Runs text (out ++ ended run) := by
  intro before
  refine ⟨run, before ++ out, ?_, List.append_assoc ..⟩
  have hadd := foldl_runStep_add text (.plain []) before []
  rwa [List.append_nil, h] at hadd

theorem runs_nil_of_foldl {text : List Char}
    (h : text.foldl runStep (.plain [], []) = (.plain [], [])) : Runs text [] :=
  runs_of_foldl h

/-- A character that is neither an operator character nor a quote. -/
def IsDelimiter (c : Char) : Prop := isOperatorChar c = false ∧ isQuote c = false

instance (c : Char) : Decidable (IsDelimiter c) := inferInstanceAs (Decidable (_ ∧ _))

theorem runStep_delimiter {c : Char} (hc : IsDelimiter c) (run : List Char)
    (out : List (List Char)) : runStep (.plain run, out) c = (.plain [], out ++ ended run) := by
  rw [runStep]
  simp only [hc.1, hc.2, Bool.false_eq_true, if_false]

/-- Two pieces with a delimiter between them. -/
theorem Runs.delimit {a b : List Char} {ra rb : List (List Char)} {c : Char} (hc : IsDelimiter c)
    (ha : Runs a ra) (hb : Runs b rb) : Runs (a ++ c :: b) (ra ++ rb) := by
  intro before
  obtain ⟨run, out, hfold, hout⟩ := ha before
  obtain ⟨run', out', hfold', hout'⟩ := hb (before ++ ra)
  -- the delimiter ends the run of the first piece
  refine ⟨run', out', ?_, by rw [hout', List.append_assoc]⟩
  rw [List.foldl_append, hfold, List.foldl_cons, runStep_delimiter hc, hout, hfold']

theorem Runs.delimit_cons {b : List Char} {rb : List (List Char)} {c : Char} (hc : IsDelimiter c)
    (hb : Runs b rb) : Runs (c :: b) rb :=
  Runs.delimit hc .nil hb

theorem Runs.delimit_concat {a : List Char} {ra : List (List Char)} {c : Char}
    (hc : IsDelimiter c) (ha : Runs a ra) : Runs (a ++ [c]) ra := by
  have h := Runs.delimit hc ha .nil
  rwa [List.append_nil] at h

theorem foldl_runStep_operator {name : List Char} (h : name.all isOperatorChar = true)
    (run : List Char) (out : List (List Char)) :
    name.foldl runStep (.plain run, out) = (.plain (run ++ name), out) := by
  induction name generalizing run with
  | nil => rw [List.append_nil]; rfl
  | cons c rest ih =>
    rw [List.all_cons, Bool.and_eq_true] at h
    have hstep : runStep (.plain run, out) c = (.plain (run ++ [c]), out) := by
      rw [runStep]
      simp only [h.1, if_true]
    rw [List.foldl_cons, hstep, ih h.2, List.append_assoc]
    rfl

/-- The name of an operator is one run. -/
theorem Runs.operator {name : List Char} (hne : name ≠ []) (h : name.all isOperatorChar = true) :
    Runs name [name] := by
  intro before
  refine ⟨name, before, foldl_runStep_operator h [] before, ?_⟩
  obtain ⟨c, rest, rfl⟩ := List.exists_cons_of_ne_nil hne
  rfl

/-- Delimiters before a piece. -/
theorem Runs.after_delimiters {text : List Char} (h : ∀ c ∈ text, IsDelimiter c) {b : List Char}
    {rb : List (List Char)} (hb : Runs b rb) : Runs (text ++ b) rb := by
  induction text with
  | nil => exact hb
  | cons c rest ih =>
    exact .delimit_cons (h c (List.mem_cons_self ..))
      (ih fun d hd => h d (List.mem_cons_of_mem _ hd))

/-- A text of delimiters has no runs. -/
theorem Runs.delimiters {text : List Char} (h : ∀ c ∈ text, IsDelimiter c) : Runs text [] := by
  rw [← List.append_nil text]
  exact .after_delimiters h .nil

/-! ## Quotes -/

theorem isOperatorChar_of_isQuote {q : Char} (hq : isQuote q = true) :
    isOperatorChar q = false := by
  rw [isQuote, Bool.or_eq_true, beq_iff_eq, beq_iff_eq] at hq
  rcases hq with rfl | rfl <;> decide

theorem runStep_open {q : Char} (hq : isQuote q = true) (run : List Char)
    (out : List (List Char)) : runStep (.plain run, out) q = (.inside q, out ++ ended run) := by
  rw [runStep]
  simp only [isOperatorChar_of_isQuote hq, hq, Bool.false_eq_true, if_false, if_true]

theorem runStep_close (q : Char) (out : List (List Char)) :
    runStep (.inside q, out) q = (.plain [], out) :=
  if_pos rfl

theorem runStep_inside {q c : Char} (hc : c ≠ q) (out : List (List Char)) :
    runStep (.inside q, out) c = (.inside q, out) :=
  if_neg hc

/-- Inside quotes there are no runs. -/
theorem foldl_runStep_escape {q : Char} (hq : isQuote q = true) (s : List Char) :
    (escape q s).foldl runStep (.inside q, []) = (.inside q, []) := by
  induction s with
  | nil => rfl
  | cons c rest ih =>
    rw [escape]
    by_cases hc : c = q
    · -- the quote is left and entered again
      rw [if_pos hc, List.foldl_cons, List.foldl_cons, runStep_close, runStep_open hq]
      exact ih
    · rw [if_neg hc, List.foldl_cons, runStep_inside hc, ih]

/-- Quoted text has no runs. -/
theorem Runs.quoted {q : Char} (hq : isQuote q = true) (s : List Char) :
    Runs (q :: (escape q s ++ [q])) [] := by
  have hfold : (q :: (escape q s ++ [q])).foldl runStep (.plain [], []) = (.plain [], []) := by
    rw [List.foldl_cons, runStep_open hq, List.foldl_append, ended, List.append_nil,
      foldl_runStep_escape hq, List.foldl_cons, runStep_close]
    rfl
  exact runs_nil_of_foldl hfold

/-- A text that opens a quote, one inside it, and one that closes it. -/
theorem runs_around {q : Char} {opening body closing : List Char}
    (hopening : opening.foldl runStep (.plain [], []) = (.inside q, [])) (hbody : q ∉ body)
    (hclosing : closing.foldl runStep (.inside q, []) = (.plain [], [])) :
    Runs (opening ++ body ++ closing) [] := by
  have hinside : body.foldl runStep (.inside q, []) = (.inside q, []) := by
    clear hopening hclosing
    induction body with
    | nil => rfl
    | cons c rest ih =>
      rw [List.mem_cons, not_or] at hbody
      rw [List.foldl_cons, runStep_inside (Ne.symm hbody.1), ih hbody.2]
  have hfold : (opening ++ body ++ closing).foldl runStep (.plain [], []) = (.plain [], []) := by
    rw [List.foldl_append, List.foldl_append, hopening, hinside, hclosing]
  exact runs_nil_of_foldl hfold

/-! ## Text without quotes -/

theorem mem_ended {run r : List Char} (h : r ∈ ended run) : r ≠ [] ∧ r = run := by
  cases run with
  | nil => cases h
  | cons c rest =>
    obtain rfl : r = c :: rest := List.mem_singleton.mp h
    exact ⟨List.cons_ne_nil _ _, rfl⟩

/-- The runs of a text without quotes, behind the run before it. -/
theorem foldl_runStep_plain {text : List Char} (h : ∀ c ∈ text, isQuote c = false)
    (run : List Char) (out : List (List Char)) : ∃ run' new,
      text.foldl runStep (.plain run, out) = (.plain run', out ++ new) ∧
      ∀ r ∈ new ++ ended run', r ≠ [] ∧ ∀ c ∈ r, c ∈ run ++ text := by
  induction text generalizing run out with
  | nil =>
    refine ⟨run, [], by rw [List.append_nil]; rfl, ?_⟩
    intro r hr
    obtain ⟨hne, rfl⟩ := mem_ended hr
    exact ⟨hne, fun c hc => List.mem_append_left _ hc⟩
  | cons c rest ih =>
    have hrest : ∀ d ∈ rest, isQuote d = false := fun d hd => h d (List.mem_cons_of_mem _ hd)
    rcases hc : isOperatorChar c with _ | _
    · -- the run ends here
      obtain ⟨run', new, hfold, hmem⟩ := ih hrest [] (out ++ ended run)
      refine ⟨run', ended run ++ new, ?_, ?_⟩
      · rw [List.foldl_cons, runStep_delimiter ⟨hc, h c (List.mem_cons_self ..)⟩, hfold,
          List.append_assoc]
      · intro r hr
        rw [List.append_assoc, List.mem_append] at hr
        rcases hr with hr | hr
        · obtain ⟨hne, rfl⟩ := mem_ended hr
          exact ⟨hne, fun d hd => List.mem_append_left _ hd⟩
        · obtain ⟨hne, hsub⟩ := hmem r hr
          exact ⟨hne, fun d hd =>
            List.mem_append_right _ (List.mem_cons_of_mem _ (hsub d hd))⟩
    · -- the run goes on
      obtain ⟨run', new, hfold, hmem⟩ := ih hrest (run ++ [c]) out
      have hstep : runStep (.plain run, out) c = (.plain (run ++ [c]), out) := by
        rw [runStep]
        simp only [hc, if_true]
      refine ⟨run', new, by rw [List.foldl_cons, hstep, hfold], ?_⟩
      rw [List.append_assoc] at hmem
      exact hmem

/-- A text without quotes has some runs, which are made of its characters. -/
theorem runs_of_plain {text : List Char} (h : ∀ c ∈ text, isQuote c = false) :
    Runs text (operatorRuns text) ∧
      ∀ r ∈ operatorRuns text, r ≠ [] ∧ ∀ c ∈ r, c ∈ text := by
  obtain ⟨run, new, hfold, hmem⟩ := foldl_runStep_plain h [] []
  rw [List.nil_append] at hfold
  have hruns : operatorRuns text = new ++ ended run := by
    rw [operatorRuns, hfold, RunMode.flush]
  rw [hruns]
  exact ⟨runs_of_foldl hfold, hmem⟩

end SqlText
