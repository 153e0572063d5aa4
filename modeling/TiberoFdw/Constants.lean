import TiberoFdw.Lib.Numeral
import TiberoFdw.Verdict
import TiberoFdw.Render

/-!
# Constants without quotes, and constants of other types

A number is written as its output function prints it, without quotes. **Finite numbers are
numerals of their value**; the special values are words.

Constants of the types without a branch of their own are taken for C strings, whatever
their representation is: **only those that are C strings are written as their output
function prints them**.
-/

namespace TiberoFdw

/-! ## Numbers -/

/-- The value of a number. -/
inductive NumericValue : Type where
  | finite (q : ℚ)
  | nan
  | infinity
  | negInfinity

/-- The types of integers. -/
def integerTypes : List Oid := [INT2OID, INT4OID, INT8OID, OIDOID]

/-- The types of floating-point numbers. -/
def floatTypes : List Oid := [FLOAT4OID, FLOAT8OID]

/-- What the output functions of numbers print, by what the data stand for. `round` takes a
number to the one that a floating-point type has for it. -/
structure PrintsNumbers (pg : Postgres) (valueOf : Oid → Datum → Option NumericValue)
    (round : Oid → ℚ → ℚ) : Prop where
  integer : ∀ t ∈ integerTypes, ∀ datum value, valueOf t datum = some value →
    ∃ v : Int, value = .finite v ∧
      pg.outputFunctionCall (pg.pgType t).typoutput datum = printfD 0 v
  /-- all digits, without a power of ten -/
  numeric : ∀ datum q, valueOf NUMERICOID datum = some (.finite q) →
    ∃ n : Numeral, n.WellFormed ∧ n.exponent = none ∧ n.value = q ∧
      pg.outputFunctionCall (pg.pgType NUMERICOID).typoutput datum = n.text
  /-- enough digits to find the number again -/
  float : ∀ t ∈ floatTypes, ∀ datum q, valueOf t datum = some (.finite q) →
    ∃ n : Numeral, n.WellFormed ∧ round t n.value = q ∧
      pg.outputFunctionCall (pg.pgType t).typoutput datum = n.text
  nan : ∀ t ∈ numericTypes, ∀ datum, valueOf t datum = some .nan →
    pg.outputFunctionCall (pg.pgType t).typoutput datum = "NaN".toList
  infinity : ∀ t ∈ numericTypes, ∀ datum, valueOf t datum = some .infinity →
    pg.outputFunctionCall (pg.pgType t).typoutput datum = "Infinity".toList
  negInfinity : ∀ t ∈ numericTypes, ∀ datum, valueOf t datum = some .negInfinity →
    pg.outputFunctionCall (pg.pgType t).typoutput datum = "-Infinity".toList

/-- A literal of that number denotes the value. -/
def Denotes (round : Oid → ℚ → ℚ) (t : Oid) (p : ℚ) : NumericValue → Prop
  | .finite q => if t ∈ floatTypes then round t p = q else p = q
  | _ => False

/-- An identifier or a keyword. -/
def IsName (text : Text) : Prop := text.head?.any (fun c => c.isAlpha || c == '_') = true

instance (text : Text) : Decidable (IsName text) := by
  unfold IsName
  infer_instance

/-- What is said of a constant that stands for a number. -/
def WrittenAsNumeral (pg : Postgres) (round : Oid → ℚ → ℚ) (c : Const) (value : NumericValue) :
    Prop :=
  ∃ text n, Renders (deparseExprForTConst pg c) (some text) ∧
    Numeral.read text = some (n, []) ∧ Denotes round c.consttype n.value value ∧ ¬ IsName text

theorem not_isAlpha_of_isDigit {c : Char} (hc : c.isDigit = true) : c.isAlpha = false := by
  obtain ⟨-, hle⟩ := Char.isDigit_iff_toNat.mp hc
  have hupper : c.isUpper = false := by
    apply decide_eq_false
    rintro ⟨hge, -⟩
    exact absurd (Nat.le_trans (UInt32.le_iff_toNat_le.mp hge) hle) (by decide)
  have hlower : c.isLower = false := by
    rw [Bool.eq_false_iff]
    intro hlower
    have hge := of_decide_eq_true (Bool.and_eq_true_iff.mp hlower).1
    exact absurd (Nat.le_trans (UInt32.le_iff_toNat_le.mp hge) hle) (by decide)
  exact Bool.or_eq_false_iff.mpr ⟨hupper, hlower⟩

/-- A numeral does not start like a name. -/
theorem not_isName_text {n : Numeral} (h : n.WellFormed) : ¬ IsName n.text := by
  obtain ⟨c, rest, htext, hc⟩ := Numeral.text_cons h
  intro hname
  have hletter : c.isAlpha = true ∨ c = '_' := by simpa [IsName, htext] using hname
  rcases hc with rfl | hdigit
  · exact absurd hletter (by decide)
  · rcases hletter with halpha | rfl
    · rw [not_isAlpha_of_isDigit hdigit] at halpha
      cases halpha
    · cases hdigit

theorem printfD_eq_text (v : Int) : printfD 0 v = (Numeral.ofInt v).text := by
  rw [printfD]
  split_ifs with hneg
  · simp [zeroPad, Numeral.text, Numeral.ofInt, Numeral.signText, hneg, decimal,
      Numeral.fractionText, Numeral.exponentText]
  · simp [zeroPad, Numeral.text, Numeral.ofInt, Numeral.signText, hneg, decimal,
      Numeral.fractionText, Numeral.exponentText]

section

variable {pg : Postgres} {valueOf : Oid → Datum → Option NumericValue} {round : Oid → ℚ → ℚ}

/-- A finite number is printed as a numeral of its value. -/
theorem PrintsNumbers.finite (h : PrintsNumbers pg valueOf round) {t : Oid} (ht : t ∈ numericTypes)
    {datum : Datum} {q : ℚ} (hvalue : valueOf t datum = some (.finite q)) :
    ∃ n : Numeral, n.WellFormed ∧ Denotes round t n.value (.finite q) ∧
      pg.outputFunctionCall (pg.pgType t).typoutput datum = n.text := by
  by_cases hfloat : t ∈ floatTypes
  · obtain ⟨n, hn, hround, htext⟩ := h.float t hfloat datum q hvalue
    refine ⟨n, hn, ?_, htext⟩
    rw [Denotes, if_pos hfloat]
    exact hround
  by_cases hinteger : t ∈ integerTypes
  · obtain ⟨v, hv, htext⟩ := h.integer t hinteger datum _ hvalue
    have hq : (Numeral.ofInt v).value = q :=
      (Numeral.value_ofInt v).trans (NumericValue.finite.inj hv).symm
    refine ⟨.ofInt v, Numeral.wellFormed_ofInt v, ?_, htext.trans (printfD_eq_text v)⟩
    rw [Denotes, if_neg hfloat]
    exact hq
  · -- the one type that is left
    have hnumeric : t = NUMERICOID := by
      simp only [numericTypes, integerTypes, floatTypes, List.mem_cons, List.not_mem_nil,
        or_false] at ht hfloat hinteger
      tauto
    subst hnumeric
    obtain ⟨n, hn, -, hq, htext⟩ := h.numeric datum q hvalue
    refine ⟨n, hn, ?_, htext⟩
    rw [Denotes, if_neg hfloat]
    exact hq

/-- A special value is printed as no numeral. -/
theorem PrintsNumbers.special (h : PrintsNumbers pg valueOf round) {t : Oid} (ht : t ∈ numericTypes)
    {datum : Datum} {value : NumericValue} (hvalue : valueOf t datum = some value)
    (hspecial : ∀ q, value ≠ .finite q) :
    Numeral.read (pg.outputFunctionCall (pg.pgType t).typoutput datum) = none := by
  cases value with
  | finite q => exact absurd rfl (hspecial q)
  | nan =>
    rw [h.nan t ht datum hvalue]
    decide
  | infinity =>
    rw [h.infinity t ht datum hvalue]
    decide
  | negInfinity =>
    rw [h.negInfinity t ht datum hvalue]
    decide

/-- A number is written as its output function prints it. -/
theorem constText_number {c : Const} (hnull : c.constisnull = false)
    (ht : c.consttype ∈ numericTypes) : constText pg c =
      some (pg.outputFunctionCall (pg.pgType c.consttype).typoutput c.constvalue) := by
  rw [constText, hnull, if_neg Bool.false_ne_true, datumText, if_pos ht]

/-- **Numbers are written as numerals of their value exactly when they are finite.** The others
are written as the words that their type prints, without quotes, and the remote side reads a
column name there. -/
theorem writtenAsNumeral_iff (h : PrintsNumbers pg valueOf round) {c : Const}
    (hnull : c.constisnull = false) (ht : c.consttype ∈ numericTypes) {value : NumericValue}
    (hvalue : valueOf c.consttype c.constvalue = some value) :
    WrittenAsNumeral pg round c value ↔ ∃ q, value = .finite q := by
  have hrenders := renders_const pg c
  rw [constText_number hnull ht] at hrenders
  constructor
  · rintro ⟨text, n, htext, hread, -, -⟩
    rw [hrenders.some_iff, Option.some.injEq] at htext
    -- `NaN` and the infinities start with a letter, or with a sign and a letter
    by_contra hspecial
    rw [← htext, h.special ht hvalue (not_exists.mp hspecial)] at hread
    cases hread
  · rintro ⟨q, rfl⟩
    obtain ⟨n, hn, hdenotes, htext⟩ := h.finite ht hvalue
    rw [htext] at hrenders
    have hread := @Numeral.read_text n hn [] nofun
    rw [List.append_nil] at hread
    exact ⟨n.text, n, hrenders, hread, hdenotes, not_isName_text hn⟩

end

/-- The values of some data of `Postgres.small`. -/
def smallValueOf (t : Oid) : Datum → Option NumericValue
  | .word v => if t ∈ integerTypes then some (.finite v) else none
  | .cstring text => if t = NUMERICOID ∧ text = "NaN".toList then some .nan else none
  | .memory _ => none

theorem smallValueOf_cases {t : Oid} {datum : Datum} {value : NumericValue}
    (h : smallValueOf t datum = some value) :
    (∃ v, datum = .word v ∧ t ∈ integerTypes ∧ value = .finite v) ∨
      (t = NUMERICOID ∧ datum = .cstring "NaN".toList ∧ value = .nan) := by
  cases datum with
  | word v =>
    rw [smallValueOf] at h
    split_ifs at h with ht
    exact .inl ⟨v, rfl, ht, (Option.some.inj h).symm⟩
  | cstring text =>
    rw [smallValueOf] at h
    split_ifs at h with hnan
    exact .inr ⟨hnan.1, congrArg _ hnan.2, (Option.some.inj h).symm⟩
  | memory bytes => cases h

theorem small_printsNumbers : PrintsNumbers .small smallValueOf fun _ q => q where
  integer t ht datum value hvalue := by
    rcases smallValueOf_cases hvalue with ⟨v, rfl, -, rfl⟩ | ⟨rfl, -⟩
    · refine ⟨v, rfl, ?_⟩
      simp [Postgres.small, printfD, zeroPad, decimal]
    · exact absurd ht (by decide)
  numeric datum q hvalue := by
    rcases smallValueOf_cases hvalue with ⟨v, -, ht, -⟩ | ⟨-, -, hq⟩
    · exact absurd ht (by decide)
    · cases hq
  float t ht datum q hvalue := by
    rcases smallValueOf_cases hvalue with ⟨v, -, hinteger, -⟩ | ⟨-, -, hq⟩
    · simp only [floatTypes, integerTypes, List.mem_cons, List.not_mem_nil, or_false] at ht hinteger
      rcases ht with rfl | rfl <;> exact absurd hinteger (by decide)
    · cases hq
  nan t ht datum hvalue := by
    rcases smallValueOf_cases hvalue with ⟨v, -, -, hv⟩ | ⟨-, rfl, -⟩
    · cases hv
    · rfl
  infinity t ht datum hvalue := by
    rcases smallValueOf_cases hvalue with ⟨v, -, -, hv⟩ | ⟨-, -, hv⟩ <;> cases hv
  negInfinity t ht datum hvalue := by
    rcases smallValueOf_cases hvalue with ⟨v, -, -, hv⟩ | ⟨-, -, hv⟩ <;> cases hv

/-- A negative integer. -/
theorem negativeInteger_written :
    WrittenAsNumeral .small (fun _ q => q) ⟨INT4OID, invalidOid, .word (-5), false⟩
      (.finite ((-5 : Int) : ℚ)) :=
  (writtenAsNumeral_iff small_printsNumbers (c := ⟨INT4OID, invalidOid, .word (-5), false⟩) rfl
    (by decide) rfl).mpr ⟨_, rfl⟩

/-- The numeric `NaN`, which the inspector accepts, is written as the word `NaN`. -/
theorem nan_notNumeral : ∃ c : Const, c.constisnull = false ∧ c.consttype = NUMERICOID ∧
    PrintsNumbers .small smallValueOf (fun _ q => q) ∧
    smallValueOf c.consttype c.constvalue = some .nan ∧
    exprInspectShippability .small .scanOfTable (.const c) = true ∧
    Renders (deparseExprForTConst .small c) (some "NaN".toList) ∧ IsName "NaN".toList ∧
    ¬ WrittenAsNumeral .small (fun _ q => q) c .nan := by
  have htext : Renders (deparseExprForTConst .small
      ⟨NUMERICOID, invalidOid, .cstring "NaN".toList, false⟩) (some "NaN".toList) := by
    intro s _
    rfl
  refine ⟨⟨NUMERICOID, invalidOid, .cstring "NaN".toList, false⟩, rfl, rfl, small_printsNumbers,
    rfl, by decide, htext, by decide, ?_⟩
  rintro ⟨text, n, hrenders, hread, -⟩
  rw [htext.some_iff, Option.some.injEq] at hrenders
  have hnone : Numeral.read "NaN".toList = none := by decide
  rw [← hrenders, hnone] at hread
  cases hread

/-! ## Other types -/

/-- The types with a branch of their own in `deparse_datum`. -/
def ownBranchTypes : List Oid :=
  numericTypes ++ [DATEOID, TIMESTAMPOID, TIMESTAMPTZOID] ++ stringTypes

/-- The representation is a C string. -/
def Datum.IsCString (datum : Datum) : Prop := ∃ text, datum = .cstring text

/-- What is said of a constant without a branch of its own. -/
structure RenderedThroughType (pg : Postgres) (c : Const) : Prop where
  /-- the literal is what the output function prints, in quotes -/
  literal : Renders (deparseExprForTConst pg c)
    (some (stringLiteral (pg.outputFunctionCall (pg.pgType c.consttype).typoutput c.constvalue)))
  /-- what has been read as a C string is one -/
  representation : ∀ text, Renders (deparseGenericDatum c.constvalue) (some text) →
    c.constvalue.IsCString

/-- A constant without a branch of its own is read as a C string. -/
theorem deparse_generic {pg : Postgres} {c : Const} (hnull : c.constisnull = false)
    (htype : c.consttype ∉ ownBranchTypes) :
    deparseExprForTConst pg c = deparseGenericDatum c.constvalue := by
  simp only [ownBranchTypes, List.mem_append, List.mem_cons, List.not_mem_nil, or_false,
    not_or] at htype
  obtain ⟨⟨hnumeric, hdate, hts, htstz⟩, hstring⟩ := htype
  rw [deparseExprForTConst, hnull, if_neg Bool.false_ne_true]
  unfold deparseDatum
  rw [if_neg hnumeric, if_neg hdate, if_neg hts, if_neg htstz, if_neg hstring]

theorem renders_generic (datum : Datum) :
    Renders (deparseGenericDatum datum) (datum.getCString.map stringLiteral) := by
  rw [deparseGenericDatum]
  cases datum.getCString with
  | none => exact renders_raise _
  | some str => exact renders_stringLiteral str

/-- **Constants of other types are rendered through their type exactly when they are C
strings.** The output functions of the types of C strings print the string; any other datum is
read as if it pointed to one. -/
theorem renderedThroughType_iff {pg : Postgres} {c : Const} (hnull : c.constisnull = false)
    (htype : c.consttype ∉ ownBranchTypes)
    (hout : ∀ text,
      pg.outputFunctionCall (pg.pgType c.consttype).typoutput (.cstring text) = text) :
    RenderedThroughType pg c ↔ c.constvalue.IsCString := by
  have hgeneric := @deparse_generic pg c hnull htype
  constructor
  · intro h
    exact h.representation _ (hgeneric ▸ h.literal)
  · rintro ⟨text, hvalue⟩
    constructor
    · rw [hgeneric, hvalue, hout]
      exact renders_generic (.cstring text)
    · exact fun _ _ => ⟨text, hvalue⟩

/-- The identifier of the type `cstring`. -/
def CSTRINGOID : Oid := 2275

theorem cstring_renderedThroughType :
    RenderedThroughType .small ⟨CSTRINGOID, invalidOid, .cstring "it's".toList, false⟩ :=
  (renderedThroughType_iff (c := ⟨CSTRINGOID, invalidOid, .cstring "it's".toList, false⟩) rfl
    (by decide) fun _ => rfl).mpr ⟨_, rfl⟩

/-- An interval of one day: no microseconds, a day, no months. -/
def oneDay : Datum := .memory [0, 0, 0, 0, 0, 0, 0, 0, 1, 0, 0, 0, 0, 0, 0, 0]

/-- A backend that prints one interval. -/
def Postgres.smallInterval : Postgres where
  __ := Postgres.small
  outputFunctionCall := fun typoutput datum =>
    if datum = oneDay then "1 day".toList else Postgres.small.outputFunctionCall typoutput datum

/-- One day, which the inspector accepts, is written as `NULL`. -/
theorem interval_misread : ∃ c : Const, c.constisnull = false ∧ c.consttype = INTERVALOID ∧
    c.consttype ∉ ownBranchTypes ∧
    exprInspectShippability .smallInterval .scanOfTable (.const c) = true ∧
    Renders (deparseExprForTConst .smallInterval c) (some "NULL".toList) ∧
    ¬ RenderedThroughType .smallInterval c := by
  have htext :
      Renders (deparseExprForTConst .smallInterval ⟨INTERVALOID, invalidOid, oneDay, false⟩)
      (some "NULL".toList) := by
    intro s _
    rfl
  refine ⟨⟨INTERVALOID, invalidOid, oneDay, false⟩, rfl, rfl, by decide, by decide, htext, ?_⟩
  intro h
  have hliteral := h.literal
  rw [htext.some_iff] at hliteral
  exact absurd hliteral (by decide)

end TiberoFdw
