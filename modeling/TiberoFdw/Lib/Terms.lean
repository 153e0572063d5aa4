import Mathlib.Data.List.Basic

/-!
# Fully parenthesised terms

A term is an operand, or an operator with one or two arguments in parentheses of its own.
The reader works on characters: it tries an operand first, and behind a parenthesis it tells
a prefix operator from a first argument. Operands have a syntax of their own, of which
`OperandSyntax` says what the reader relies on. **A list of conditions is read back** from
its text (`readConditions_text`).
-/

namespace Terms

variable {α : Type}

/-- A term of operands, and of operators with one or two arguments. -/
inductive Term (α : Type) : Type where
  | operand (a : α)
  | unary (op : List Char) (arg : Term α)
  | binary (op : List Char) (lhs rhs : Term α)
  deriving DecidableEq

namespace Term

/-- The text of a term, from the texts of its operands. -/
def text (operandText : α → List Char) : Term α → List Char
  | operand a => operandText a
  | unary op arg => '(' :: (op ++ ' ' :: (arg.text operandText ++ [')']))
  | binary op lhs rhs =>
    '(' :: (lhs.text operandText ++ ' ' :: (op ++ ' ' :: (rhs.text operandText ++ [')'])))

/-- The number of operands and operators. -/
def size : Term α → Nat
  | operand _ => 1
  | unary _ arg => arg.size + 1
  | binary _ lhs rhs => lhs.size + rhs.size + 1

/-- The operands and the names of the operators are as they should be. -/
def Forall (isOperand : α → Prop) (isPrefixName isInfixName : List Char → Prop) : Term α → Prop
  | operand a => isOperand a
  | unary op arg => isPrefixName op ∧ arg.Forall isOperand isPrefixName isInfixName
  | binary op lhs rhs => isInfixName op ∧ lhs.Forall isOperand isPrefixName isInfixName ∧
    rhs.Forall isOperand isPrefixName isInfixName

end Term

/-! ## Reading -/

/-- Read the name of an operator and the blank behind it. -/
def readName (text : List Char) : Option (List Char × List Char) :=
  match text.dropWhile (· ≠ ' ') with
  | ' ' :: rest => some (text.takeWhile (· ≠ ' '), rest)
  | _ => none

/-- Read a character that has to be there. -/
def expect (c : Char) : List Char → Option (List Char)
  | d :: rest => if d = c then some rest else none
  | [] => none

/-- Read a term, and what follows it. -/
def readTerm (readOperand : List Char → Option (α × List Char)) (startsName : Char → Bool) :
    Nat → List Char → Option (Term α × List Char)
  | 0, _ => none
  | fuel + 1, text =>
    match readOperand text with
    | some (a, rest) => some (.operand a, rest)
    | none =>
      (expect '(' text).bind fun text =>
        if (readOperand text).isNone ∧ text.head?.any startsName then
          (readName text).bind fun (op, text) =>
            (readTerm readOperand startsName fuel text).bind fun (arg, text) =>
              (expect ')' text).map fun rest => (.unary op arg, rest)
        else
          (readTerm readOperand startsName fuel text).bind fun (lhs, text) =>
            (expect ' ' text).bind fun text =>
              (readName text).bind fun (op, text) =>
                (readTerm readOperand startsName fuel text).bind fun (rhs, text) =>
                  (expect ')' text).map fun rest => (.binary op lhs rhs, rest)

/-- Read conditions in parentheses that are joined by `AND`. -/
def readConditions (readOperand : List Char → Option (α × List Char)) (startsName : Char → Bool)
    (fuel : Nat) : Nat → List Char → Option (List (Term α))
  | 0, _ => none
  | count + 1, text =>
    (expect '(' text).bind fun text =>
      (readTerm readOperand startsName fuel text).bind fun (t, text) =>
        (expect ')' text).bind fun text =>
          if text = [] then some [t]
          else if " AND ".toList <+: text then
            (readConditions readOperand startsName fuel count (text.drop 5)).map (t :: ·)
          else none

/-! ## What is relied on -/

/-- What may follow a term. -/
def Follows (rest : List Char) : Prop := ∀ c ∈ rest.head?, c = ' ' ∨ c = ')'

/-- A name that has no blank. -/
def IsInfixName (op : List Char) : Prop := ' ' ∉ op

/-- A name that a prefix operator may have. -/
structure IsPrefixName (startsName : Char → Bool) (op : List Char) : Prop where
  ne : op ≠ []
  all : op.all startsName = true

/-- The operands are read back, and nothing else is read as one. -/
structure OperandSyntax (readOperand : List Char → Option (α × List Char))
    (startsName : Char → Bool) (operandText : α → List Char) (isOperand : α → Prop) : Prop where
  text_ne : ∀ a, isOperand a → operandText a ≠ []
  read_text : ∀ a, isOperand a → ∀ rest, Follows rest →
    readOperand (operandText a ++ rest) = some (a, rest)
  /-- a prefix operator and a blank -/
  read_name : ∀ op, IsPrefixName startsName op → ∀ rest, readOperand (op ++ ' ' :: rest) = none
  /-- a prefix operator in parentheses -/
  read_open_name : ∀ c, startsName c = true → ∀ rest, readOperand ('(' :: c :: rest) = none
  /-- two parentheses -/
  read_open_open : ∀ rest, readOperand ('(' :: '(' :: rest) = none
  /-- an operand as first argument -/
  read_open_text : ∀ a, isOperand a → ∀ rest,
    readOperand ('(' :: (operandText a ++ ' ' :: rest)) = none
  name_open : startsName '(' = false
  name_blank : startsName ' ' = false

section

variable {readOperand : List Char → Option (α × List Char)} {startsName : Char → Bool}
  {operandText : α → List Char} {isOperand : α → Prop}

theorem readName_append {op : List Char} (h : IsInfixName op) (rest : List Char) :
    readName (op ++ ' ' :: rest) = some (op, rest) := by
  have hall : ∀ c ∈ op, decide (c ≠ ' ') = true := by
    intro c hc
    rw [decide_eq_true_eq]
    rintro rfl
    exact h hc
  rw [readName, List.dropWhile_append_of_pos hall, List.takeWhile_append_of_pos hall]
  simp

theorem follows_blank (rest : List Char) : Follows (' ' :: rest) := by
  intro c hc
  exact .inl (Option.some.inj hc).symm

theorem follows_close (rest : List Char) : Follows (')' :: rest) := by
  intro c hc
  exact .inr (Option.some.inj hc).symm

@[simp] theorem expect_cons (c : Char) (rest : List Char) : expect c (c :: rest) = some rest :=
  if_pos rfl

/-- A prefix operator has no blank. -/
theorem IsPrefixName.isInfixName (hs : OperandSyntax readOperand startsName operandText isOperand)
    {op : List Char} (h : IsPrefixName startsName op) : IsInfixName op := by
  intro hmem
  have hblank := List.all_eq_true.mp h.all ' ' hmem
  rw [hs.name_blank] at hblank
  cases hblank

/-- No operand is read behind a parenthesis that opens an operator with a first argument. -/
theorem read_open_lhs (hs : OperandSyntax readOperand startsName operandText isOperand)
    {lhs : Term α} (h : lhs.Forall isOperand (IsPrefixName startsName) IsInfixName)
    (rest : List Char) :
    readOperand ('(' :: (lhs.text operandText ++ ' ' :: rest)) = none := by
  cases lhs with
  | operand a => exact hs.read_open_text a h rest
  | unary op arg => exact hs.read_open_open _
  | binary op lhs rhs => exact hs.read_open_open _

/-- A first argument is not taken for a prefix operator. -/
theorem not_startsName_lhs (hs : OperandSyntax readOperand startsName operandText isOperand)
    {lhs : Term α} (h : lhs.Forall isOperand (IsPrefixName startsName) IsInfixName)
    (rest : List Char) :
    ¬ ((readOperand (lhs.text operandText ++ ' ' :: rest)).isNone ∧
      (lhs.text operandText ++ ' ' :: rest).head?.any startsName) := by
  rintro ⟨hnone, hname⟩
  cases lhs with
  | operand a =>
    rw [Term.text, hs.read_text a h _ (follows_blank rest)] at hnone
    cases hnone
  | unary op arg =>
    rw [Term.text, List.cons_append, List.head?_cons, Option.any_some, hs.name_open] at hname
    cases hname
  | binary op lhs rhs =>
    rw [Term.text, List.cons_append, List.head?_cons, Option.any_some, hs.name_open] at hname
    cases hname

/-- **A term is read back** from its text. -/
theorem readTerm_text (hs : OperandSyntax readOperand startsName operandText isOperand)
    {t : Term α} (ht : t.Forall isOperand (IsPrefixName startsName) IsInfixName) {fuel : Nat}
    (hfuel : t.size ≤ fuel) {rest : List Char} (hrest : Follows rest) :
    readTerm readOperand startsName fuel (t.text operandText ++ rest) = some (t, rest) := by
  induction t generalizing fuel rest with
  | operand a =>
    obtain ⟨fuel, rfl⟩ := Nat.exists_eq_add_of_le' hfuel
    rw [Term.text, Term.size, readTerm, hs.read_text a ht rest hrest]
  | unary op arg ih =>
    obtain ⟨fuel, rfl⟩ := Nat.exists_eq_add_of_le' hfuel
    obtain ⟨hop, harg⟩ := ht
    have htext : (Term.unary op arg).text operandText ++ rest =
        '(' :: (op ++ ' ' :: (arg.text operandText ++ ')' :: rest)) := by
      simp [Term.text]
    have hopen :
        readOperand ('(' :: (op ++ ' ' :: (arg.text operandText ++ ')' :: rest))) = none := by
      obtain ⟨c, op', rfl⟩ := List.exists_cons_of_ne_nil hop.ne
      exact hs.read_open_name c (List.all_eq_true.mp hop.all c (List.mem_cons_self ..)) _
    -- the reader tells a prefix operator by its first character
    have hprefix : (readOperand (op ++ ' ' :: (arg.text operandText ++ ')' :: rest))).isNone ∧
        (op ++ ' ' :: (arg.text operandText ++ ')' :: rest)).head?.any startsName := by
      obtain ⟨c, op', hcons⟩ := List.exists_cons_of_ne_nil hop.ne
      rw [hs.read_name op hop]
      refine ⟨rfl, ?_⟩
      rw [hcons]
      exact List.all_eq_true.mp hop.all c (hcons ▸ List.mem_cons_self ..)
    rw [htext, Term.size, ← Nat.add_assoc, readTerm, hopen]
    dsimp only
    rw [expect_cons, Option.bind_some, if_pos hprefix, readName_append (hop.isInfixName hs),
      Option.bind_some]
    dsimp only
    rw [ih harg (Nat.le_add_left ..) (follows_close rest), Option.bind_some]
    dsimp only
    rw [expect_cons, Option.map_some]
  | binary op lhs rhs ihl ihr =>
    obtain ⟨fuel, rfl⟩ := Nat.exists_eq_add_of_le' hfuel
    obtain ⟨hop, hlhs, hrhs⟩ := ht
    have htext : (Term.binary op lhs rhs).text operandText ++ rest =
        '(' :: (lhs.text operandText ++
          ' ' :: (op ++ ' ' :: (rhs.text operandText ++ ')' :: rest))) := by
      simp [Term.text]
    rw [htext, Term.size, ← Nat.add_assoc, readTerm, read_open_lhs hs hlhs]
    dsimp only
    rw [expect_cons, Option.bind_some, if_neg (not_startsName_lhs hs hlhs _),
      ihl hlhs (by omega) (follows_blank _), Option.bind_some]
    dsimp only
    rw [expect_cons, Option.bind_some, readName_append hop, Option.bind_some]
    dsimp only
    rw [ihr hrhs (by omega) (follows_close rest), Option.bind_some]
    dsimp only
    rw [expect_cons, Option.map_some]

theorem size_le_length (hs : OperandSyntax readOperand startsName operandText isOperand)
    {t : Term α} (ht : t.Forall isOperand (IsPrefixName startsName) IsInfixName) :
    t.size ≤ (t.text operandText).length := by
  induction t with
  | operand a => exact List.length_pos_iff.mpr (hs.text_ne a ht)
  | unary op arg ih =>
    have h := ih ht.2
    simp only [Term.size, Term.text, List.length_cons, List.length_append]
    omega
  | binary op lhs rhs ihl ihr =>
    have hl := ihl ht.2.1
    have hr := ihr ht.2.2
    simp only [Term.size, Term.text, List.length_cons, List.length_append]
    omega

/-- The text of conditions. -/
def conditionsText (operandText : α → List Char) (ts : List (Term α)) : List Char :=
  List.intercalate " AND ".toList (ts.map fun t => '(' :: (t.text operandText ++ [')']))

theorem conditionsText_singleton (t : Term α) :
    conditionsText operandText [t] = '(' :: (t.text operandText ++ [')']) := by
  simp [conditionsText]

theorem conditionsText_cons (t next : Term α) (rest : List (Term α)) :
    conditionsText operandText (t :: next :: rest) = '(' :: (t.text operandText ++
      ')' :: (" AND ".toList ++ conditionsText operandText (next :: rest))) := by
  simp [conditionsText]

/-- The text of conditions is as long as that of each of them, and as their number. -/
theorem length_conditionsText (ts : List (Term α)) :
    (∀ t ∈ ts, (t.text operandText).length ≤ (conditionsText operandText ts).length) ∧
      ts.length ≤ (conditionsText operandText ts).length := by
  induction ts with
  | nil => exact ⟨nofun, Nat.le_refl 0⟩
  | cons t rest ih =>
    rcases rest with _ | ⟨next, rest⟩
    · simp only [conditionsText_singleton, List.forall_mem_singleton, List.length_cons,
        List.length_append, List.length_nil]
      omega
    · simp only [conditionsText_cons, List.length_cons, List.length_append] at ih ⊢
      refine ⟨?_, by omega⟩
      intro u hu
      rcases List.mem_cons.mp hu with rfl | hu
      · omega
      · have hle := ih.1 u hu
        omega

/-- **Conditions are read back** from their text. -/
theorem readConditions_text (hs : OperandSyntax readOperand startsName operandText isOperand)
    {ts : List (Term α)} (hne : ts ≠ [])
    (hts : ∀ t ∈ ts, t.Forall isOperand (IsPrefixName startsName) IsInfixName) {fuel count : Nat}
    (hfuel : ∀ t ∈ ts, t.size ≤ fuel) (hcount : ts.length ≤ count) :
    readConditions readOperand startsName fuel count (conditionsText operandText ts) = some ts := by
  induction ts generalizing count with
  | nil => exact absurd rfl hne
  | cons t rest ih =>
    obtain ⟨count, rfl⟩ := Nat.exists_eq_add_of_le' hcount
    -- the induction is on the conditions, with fuel for the longest of them
    have hterm := @readTerm_text α readOperand startsName operandText isOperand hs t
      (hts t (List.mem_cons_self ..)) fuel (hfuel t (List.mem_cons_self ..))
    rcases rest with _ | ⟨next, rest⟩
    · rw [conditionsText_singleton, List.length_singleton, readConditions, expect_cons,
        Option.bind_some, hterm (follows_close []), Option.bind_some]
      dsimp only
      rw [expect_cons, Option.bind_some, if_pos rfl]
    · have hdrop : (" AND ".toList ++ conditionsText operandText (next :: rest)).drop 5 =
        conditionsText operandText (next :: rest) := rfl
      rw [conditionsText_cons, List.length_cons, ← Nat.add_assoc, readConditions,
        expect_cons, Option.bind_some, hterm (follows_close _), Option.bind_some]
      dsimp only
      rw [expect_cons, Option.bind_some, if_neg nofun, if_pos (List.prefix_append _ _), hdrop,
        ih (List.cons_ne_nil _ _) (fun u hu => hts u (List.mem_cons_of_mem _ hu))
          (fun u hu => hfuel u (List.mem_cons_of_mem _ hu)) (Nat.le_add_left ..)]
      rfl

/-- Read conditions with as much fuel as the text has characters. -/
def read (readOperand : List Char → Option (α × List Char)) (startsName : Char → Bool)
    (text : List Char) : Option (List (Term α)) :=
  readConditions readOperand startsName text.length text.length text

theorem read_conditionsText (hs : OperandSyntax readOperand startsName operandText isOperand)
    {ts : List (Term α)} (hne : ts ≠ [])
    (hts : ∀ t ∈ ts, t.Forall isOperand (IsPrefixName startsName) IsInfixName) :
    read readOperand startsName (conditionsText operandText ts) = some ts := by
  obtain ⟨htext, hcount⟩ := @length_conditionsText α operandText ts
  exact readConditions_text hs hne hts
    (fun t ht => Nat.le_trans (size_le_length hs (hts t ht)) (htext t ht)) hcount

end

end Terms
