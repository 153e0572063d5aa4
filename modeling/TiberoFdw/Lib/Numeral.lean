import Mathlib.Algebra.Field.Rat

/-!
# Numerals

A numeric literal has a sign, digits, digits behind a point, and a power of ten. The reader
takes as many characters as belong to the literal; a numeral is read back from its text in
front of anything that does not go on with it.
-/

/-- The parts of a numeric literal. -/
structure Numeral where
  negative : Bool
  whole : List Char
  /-- the digits behind the point -/
  fraction : Option (List Char)
  /-- whether the power of ten is negative, and its digits -/
  exponent : Option (Bool × List Char)
  deriving DecidableEq

namespace Numeral

/-- The digits are digits, and there are some. -/
def IsDigits (digits : List Char) : Prop := digits ≠ [] ∧ digits.all Char.isDigit = true

/-- The parts consist of digits, and the ones that are written have some. -/
structure WellFormed (n : Numeral) : Prop where
  whole : IsDigits n.whole
  fraction : ∀ digits ∈ n.fraction, IsDigits digits
  exponent : ∀ e ∈ n.exponent, IsDigits e.2

/-- The sign; only the minus is written. -/
def signText (negative : Bool) : List Char := if negative then ['-'] else []

/-- The point and the digits behind it. -/
def fractionText : Option (List Char) → List Char
  | none => []
  | some digits => '.' :: digits

/-- The exponent, with its sign in any case. -/
def exponentText : Option (Bool × List Char) → List Char
  | none => []
  | some (negative, digits) => 'e' :: (if negative then '-' else '+') :: digits

/-- A numeral as it is written. -/
def text (n : Numeral) : List Char :=
  signText n.negative ++ (n.whole ++ (fractionText n.fraction ++ exponentText n.exponent))

/-- The power of ten. -/
def power (n : Numeral) : Int :=
  match n.exponent with
  | none => 0
  | some (negative, digits) =>
    if negative then -(Nat.ofDigitChars 10 digits 0 : Int) else Nat.ofDigitChars 10 digits 0

/-- The number that the literal denotes. -/
def value (n : Numeral) : ℚ :=
  (if n.negative then -1 else 1) *
    ((Nat.ofDigitChars 10 (n.whole ++ n.fraction.getD []) 0 : ℚ) *
      10 ^ (n.power - (n.fraction.getD []).length))

/-! ## Reading -/

/-- Read a sign that may be missing. -/
def readSign : List Char → Bool × List Char
  | '-' :: rest => (true, rest)
  | '+' :: rest => (false, rest)
  | rest => (false, rest)

/-- The digits at the start of a text, and the rest. -/
def readDigits (text : List Char) : List Char × List Char :=
  (text.takeWhile Char.isDigit, text.dropWhile Char.isDigit)

/-- Read the digits behind a point, where there is one with digits. -/
def readFraction (text : List Char) : Option (List Char) × List Char :=
  match text with
  | '.' :: rest =>
    if (readDigits rest).1 = [] then (none, text)
    else (some (readDigits rest).1, (readDigits rest).2)
  | _ => (none, text)

/-- The letter before the power of ten. -/
def isExponentMark (c : Char) : Bool := c == 'e' || c == 'E'

/-- Read a power of ten, where there is one with digits. -/
def readExponent (text : List Char) : Option (Bool × List Char) × List Char :=
  match text with
  | c :: rest =>
    if isExponentMark c = true ∧ (readDigits (readSign rest).2).1 ≠ [] then
      (some ((readSign rest).1, (readDigits (readSign rest).2).1), (readDigits (readSign rest).2).2)
    else (none, text)
  | [] => (none, text)

/-- Read a numeral, and what follows it. -/
def read (text : List Char) : Option (Numeral × List Char) :=
  let (negative, text) := readSign text
  let (whole, text) := readDigits text
  let (fraction, text) := readFraction text
  let (exponent, text) := readExponent text
  if whole = [] ∧ fraction = none then none else some (⟨negative, whole, fraction, exponent⟩, text)

/-- The text does not go on with a numeral. -/
def Ends (rest : List Char) : Prop :=
  ∀ c ∈ rest.head?, c.isDigit = false ∧ c ≠ '.' ∧ isExponentMark c = false

theorem readDigits_append {digits rest : List Char} (hdigits : digits.all Char.isDigit = true)
    (hrest : ∀ c ∈ rest.head?, c.isDigit = false) :
    readDigits (digits ++ rest) = (digits, rest) := by
  have hall := List.all_eq_true.mp hdigits
  have hstop : rest.takeWhile Char.isDigit = [] ∧ rest.dropWhile Char.isDigit = rest := by
    cases rest with
    | nil => exact ⟨rfl, rfl⟩
    | cons c rest =>
      have hc : c.isDigit = false := hrest c rfl
      simp [hc]
  rw [readDigits, List.takeWhile_append_of_pos hall, List.dropWhile_append_of_pos hall, hstop.1,
    hstop.2, List.append_nil]

theorem readSign_append (negative : Bool) {c : Char} {rest : List Char} (hminus : c ≠ '-')
    (hplus : c ≠ '+') : readSign (signText negative ++ c :: rest) = (negative, c :: rest) := by
  cases negative with
  | true => rfl
  | false =>
    rw [signText, if_neg Bool.false_ne_true, List.nil_append, readSign]
    · exact fun _ h => hminus (List.cons.inj h).1
    · exact fun _ h => hplus (List.cons.inj h).1

theorem readFraction_append {fraction : Option (List Char)} {rest : List Char}
    (hfraction : ∀ digits ∈ fraction, IsDigits digits)
    (hrest : ∀ c ∈ rest.head?, c.isDigit = false ∧ c ≠ '.') :
    readFraction (fractionText fraction ++ rest) = (fraction, rest) := by
  cases fraction with
  | none =>
    rw [fractionText, List.nil_append, readFraction.eq_def]
    split
    · rename_i rest'
      exact absurd rfl (hrest '.' rfl).2
    · rfl
  | some digits =>
    have hdigits := hfraction digits rfl
    rw [fractionText, List.cons_append, readFraction,
      readDigits_append hdigits.2 fun c hc => (hrest c hc).1]
    exact if_neg hdigits.1

theorem readExponent_append {exponent : Option (Bool × List Char)} {rest : List Char}
    (hexponent : ∀ e ∈ exponent, IsDigits e.2) (hrest : Ends rest) :
    readExponent (exponentText exponent ++ rest) = (exponent, rest) := by
  cases exponent with
  | none =>
    rw [exponentText, List.nil_append]
    cases rest with
    | nil => rfl
    | cons c rest =>
      have hc : isExponentMark c = false := (hrest c rfl).2.2
      rw [readExponent]
      exact if_neg fun h => absurd h.1 (by rw [hc]; exact Bool.false_ne_true)
  | some e =>
    obtain ⟨negative, digits⟩ := e
    have hdigits := hexponent _ rfl
    have hsign : readSign ((if negative then '-' else '+') :: (digits ++ rest)) =
        (negative, digits ++ rest) := by
      cases negative <;> rfl
    rw [exponentText, List.cons_append, List.cons_append, readExponent, hsign,
      readDigits_append hdigits.2 fun c hc => (hrest c hc).1]
    exact if_pos ⟨by decide, hdigits.1⟩

/-- A power of ten goes on with neither digits nor a point. -/
theorem exponentText_head {exponent : Option (Bool × List Char)} {rest : List Char}
    (hrest : Ends rest) :
    ∀ c ∈ (exponentText exponent ++ rest).head?, c.isDigit = false ∧ c ≠ '.' := by
  intro c hc
  cases exponent with
  | none => exact ⟨(hrest c hc).1, (hrest c hc).2.1⟩
  | some e =>
    obtain rfl : 'e' = c := Option.some.inj hc
    decide

/-- A fraction does not go on with digits. -/
theorem fractionText_head {fraction : Option (List Char)} {rest : List Char}
    (hrest : ∀ c ∈ rest.head?, c.isDigit = false) :
    ∀ c ∈ (fractionText fraction ++ rest).head?, c.isDigit = false := by
  intro c hc
  cases fraction with
  | none => exact hrest c hc
  | some digits =>
    obtain rfl : '.' = c := Option.some.inj hc
    decide

/-- **A numeral is read back** from its text. -/
theorem read_text {n : Numeral} (h : n.WellFormed) {rest : List Char} (hrest : Ends rest) :
    read (n.text ++ rest) = some (n, rest) := by
  obtain ⟨negative, whole, fraction, exponent⟩ := n
  obtain ⟨⟨hne, hwhole⟩, hfraction, hexponent⟩ := h
  dsimp only at hne hwhole hfraction hexponent
  obtain ⟨c, digits, rfl⟩ := List.exists_cons_of_ne_nil hne
  have hc : c.isDigit = true := List.all_eq_true.mp hwhole c (List.mem_cons_self ..)
  have hminus : c ≠ '-' := by
    rintro rfl
    cases hc
  have hplus : c ≠ '+' := by
    rintro rfl
    cases hc
  have hpower := @exponentText_head exponent rest hrest
  -- sign, digits, fraction and power of ten are read in this order
  rw [text, List.append_assoc, List.append_assoc, List.append_assoc, read, List.cons_append,
    readSign_append negative hminus hplus, ← List.cons_append]
  dsimp only
  rw [readDigits_append hwhole (fractionText_head fun c hc => (hpower c hc).1)]
  dsimp only
  rw [readFraction_append hfraction hpower]
  dsimp only
  rw [readExponent_append hexponent hrest]
  exact if_neg fun h => List.cons_ne_nil _ _ h.1

/-- Without digits or a point behind the sign there is no numeral. -/
theorem read_eq_none {text : List Char}
    (h : ∀ c ∈ (readSign text).2.head?, c.isDigit = false ∧ c ≠ '.') : read text = none := by
  have hdigits : readDigits (readSign text).2 = ([], (readSign text).2) :=
    @readDigits_append [] _ rfl fun c hc => (h c hc).1
  have hfraction : readFraction (readSign text).2 = (none, (readSign text).2) :=
    @readFraction_append none _ nofun h
  rw [read]
  dsimp only
  rw [hdigits]
  dsimp only
  rw [hfraction]
  exact if_pos ⟨rfl, rfl⟩

/-- The text of a numeral starts with a minus or a digit. -/
theorem text_cons {n : Numeral} (h : n.WellFormed) :
    ∃ c rest, n.text = c :: rest ∧ (c = '-' ∨ c.isDigit = true) := by
  obtain ⟨negative, whole, fraction, exponent⟩ := n
  obtain ⟨⟨hne, hwhole⟩, -, -⟩ := h
  dsimp only at hne hwhole
  obtain ⟨c, digits, rfl⟩ := List.exists_cons_of_ne_nil hne
  cases negative with
  | true => exact ⟨_, _, rfl, .inl rfl⟩
  | false => exact ⟨_, _, rfl, .inr (List.all_eq_true.mp hwhole c (List.mem_cons_self ..))⟩

/-- The characters of a numeral. -/
theorem mem_text {n : Numeral} (h : n.WellFormed) {c : Char} (hc : c ∈ n.text) :
    c.isDigit = true ∨ c ∈ ['-', '+', '.', 'e'] := by
  obtain ⟨negative, whole, fraction, exponent⟩ := n
  obtain ⟨hwhole, hfraction, hexponent⟩ := h
  dsimp only at hwhole hfraction hexponent
  rw [text, List.mem_append, List.mem_append, List.mem_append] at hc
  rcases hc with hc | hc | hc | hc
  · rw [signText] at hc
    split_ifs at hc
    · exact .inr (by simp [List.mem_singleton.mp hc])
    · cases hc
  · exact .inl (List.all_eq_true.mp hwhole.2 c hc)
  · cases fraction with
    | none => cases hc
    | some digits =>
      rcases List.mem_cons.mp hc with rfl | hc
      · exact .inr (by decide)
      · exact .inl (List.all_eq_true.mp (hfraction digits rfl).2 c hc)
  · cases exponent with
    | none => cases hc
    | some e =>
      obtain ⟨negative, digits⟩ := e
      rw [exponentText, List.mem_cons, List.mem_cons] at hc
      rcases hc with rfl | rfl | hc
      · exact .inr (by decide)
      · right
        split_ifs <;> decide
      · exact .inl (List.all_eq_true.mp (hexponent _ rfl).2 c hc)

/-- A sign is one character, or none. -/
theorem readSign_cons (c : Char) (rest : List Char) :
    (readSign (c :: rest)).2 = rest ∨ (readSign (c :: rest)).2 = c :: rest := by
  rw [readSign.eq_def]
  split
  · rename_i heq
    exact .inl (List.cons.inj heq).2.symm
  · rename_i heq
    exact .inl (List.cons.inj heq).2.symm
  · exact .inr rfl

/-! ## Integers -/

/-- An integer in decimal. -/
def ofInt (v : Int) : Numeral := ⟨decide (v < 0), Nat.toDigits 10 v.natAbs, none, none⟩

theorem wellFormed_ofInt (v : Int) : (ofInt v).WellFormed where
  whole := ⟨Nat.toDigits_ne_nil, List.all_eq_true.mpr fun _ hc =>
    Nat.isDigit_of_mem_toDigits (by decide) (by decide) hc⟩
  fraction := nofun
  exponent := nofun

/-- An integer in decimal denotes the integer. -/
theorem value_ofInt (v : Int) : (ofInt v).value = v := by
  have hdigits : Nat.ofDigitChars 10 (Nat.toDigits 10 v.natAbs ++ []) 0 = v.natAbs := by
    rw [List.append_nil, Nat.ofDigitChars_ten_toDigits]
  have hpower : (ofInt v).power - (((ofInt v).fraction.getD []).length : Int) = 0 := rfl
  rw [value, hpower, zpow_zero, mul_one, ofInt]
  simp only [Option.getD_none, hdigits, decide_eq_true_eq]
  rcases Int.lt_or_le v 0 with hneg | hpos
  · have habs : (v.natAbs : ℚ) = ((-v : Int) : ℚ) := by
      rw [← Int.ofNat_natAbs_of_nonpos (Int.le_of_lt hneg), Int.cast_natCast]
    rw [if_pos hneg, habs, Int.cast_neg, neg_mul_neg, one_mul]
  · have habs : (v.natAbs : ℚ) = (v : ℚ) := by
      rw [← Int.cast_natCast, Int.natAbs_of_nonneg hpos]
    rw [if_neg (Int.not_lt.mpr hpos), habs, one_mul]

end Numeral
