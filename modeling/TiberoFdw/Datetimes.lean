import Mathlib.Algebra.GroupWithZero.Nat
import TiberoFdw.Lib.FormatMask
import TiberoFdw.Render

/-!
# Dates and timestamps

The deparser breaks a date or a timestamp down into the fields of the calendar, prints
them, and wraps the string in a call with a format mask. Read with its mask, the string
denotes the moment that it was printed from only **in the years from 1 on**: the backend
counts 1 BC as the year 0, and `SYYYY` has no year zero. Of a timestamp with a time zone,
the offset is printed in hours and minutes.
-/

namespace TiberoFdw

open Calendar FormatMask

/-! ## Printed numbers -/

theorem decimal_all_isDigit (n : Nat) : (decimal n).all Char.isDigit = true :=
  List.all_eq_true.mpr fun _ hc => Nat.isDigit_of_mem_toDigits (by decide) (by decide) hc

theorem zeroPad_all_isDigit (width n : Nat) :
    (zeroPad width (decimal n)).all Char.isDigit = true := by
  rw [zeroPad, List.all_append, decimal_all_isDigit, Bool.and_true, List.all_eq_true]
  intro c hc
  rw [(List.mem_replicate.mp hc).2]
  decide

theorem ofDigitChars_zeroPad (width n : Nat) :
    Nat.ofDigitChars 10 (zeroPad width (decimal n)) 0 = n := by
  rw [zeroPad, Nat.ofDigitChars_append, Nat.ofDigitChars_replicate_zero, Nat.mul_zero, decimal,
    Nat.ofDigitChars_ten_toDigits]

theorem length_decimal_le {n width : Nat} (hwidth : 0 < width) (h : n < 10 ^ width) :
    (decimal n).length ≤ width :=
  (Nat.length_toDigits_le_iff (by decide) hwidth).mpr h

theorem length_zeroPad {n width : Nat} (hwidth : 0 < width) (h : n < 10 ^ width) :
    (zeroPad width (decimal n)).length = width := by
  have hle := length_decimal_le hwidth h
  rw [zeroPad, List.length_append, List.length_replicate]
  omega

theorem le_length_zeroPad (width n : Nat) : width ≤ (zeroPad width (decimal n)).length := by
  rw [zeroPad, List.length_append, List.length_replicate]
  omega

/-- A printed number of the right width is read back. -/
theorem readDigits_zeroPad {n width : Nat} (hwidth : 0 < width) (h : n < 10 ^ width)
    (rest : Text) : readDigits width (zeroPad width (decimal n) ++ rest) = some (n, rest) := by
  rw [readDigits_append (length_zeroPad hwidth h) (zeroPad_all_isDigit width n),
    ofDigitChars_zeroPad]

theorem printfD_natCast (width n : Nat) : printfD width n = zeroPad width (decimal n) := by
  rw [printfD, if_neg (by omega), Int.natAbs_natCast]

theorem readDigits_printfD {n width : Nat} (hwidth : 0 < width) (h : n < 10 ^ width)
    (rest : Text) : readDigits width (printfD width n ++ rest) = some (n, rest) := by
  rw [printfD_natCast, readDigits_zeroPad hwidth h]

/-! ## Printed years -/

/-- Digits that are padded to four places are a year. -/
theorem readYear_zeroPad (n : Nat) {rest : Text} (hrest : rest.head?.any Char.isDigit = false) :
    readYear (zeroPad 4 (decimal n) ++ rest) = if n = 0 then none else some ((n : Int), rest) := by
  -- a digit is no sign
  have hhead : (zeroPad 4 (decimal n) ++ rest).head? ≠ some '-' := by
    obtain ⟨c, digits, hcons⟩ := List.exists_cons_of_ne_nil
      (List.ne_nil_of_length_pos (Nat.lt_of_lt_of_le (by decide) (le_length_zeroPad 4 n)))
    have hdigit := List.all_eq_true.mp (zeroPad_all_isDigit 4 n) c (hcons ▸ List.mem_cons_self ..)
    rw [hcons, List.cons_append, List.head?_cons]
    rintro ⟨⟩
    cases hdigit
  rw [readYear_unsigned hhead, readYearDigits_append (le_length_zeroPad 4 n)
    (zeroPad_all_isDigit 4 n) hrest, ofDigitChars_zeroPad]
  rfl

/-- A year from 1 on is read back. -/
theorem readYear_pos {year : Int} (hpos : 1 ≤ year) {rest : Text}
    (hrest : rest.head?.any Char.isDigit = false) :
    readYear (printfD 4 year ++ rest) = some (year, rest) := by
  obtain ⟨n, rfl⟩ := Int.eq_ofNat_of_zero_le (Int.le_trans (by decide) hpos)
  rw [printfD_natCast, readYear_zeroPad n hrest, if_neg (by omega)]

/-- For a year up to 0, no year is read, or the next one. -/
theorem readYear_nonpos {year : Int} (hle : year ≤ 0) {rest : Text}
    (hrest : rest.head?.any Char.isDigit = false) :
    readYear (printfD 4 year ++ rest) = none ∨
      readYear (printfD 4 year ++ rest) = some (year + 1, rest) := by
  by_cases hzero : year = 0
  · left
    subst hzero
    exact readYear_zeroPad 0 hrest
  · have hneg : year < 0 := by omega
    rw [printfD, if_pos hneg, List.cons_append, readYear]
    -- behind the sign the mask wants four digits, and three may be printed
    by_cases hlength : 4 ≤ (zeroPad (4 - 1) (decimal year.natAbs)).length
    · right
      rw [readYearDigits_append hlength (zeroPad_all_isDigit _ _) hrest, ofDigitChars_zeroPad,
        Option.bind_some]
      dsimp only
      rw [if_neg (by omega)]
      congr 2
      omega
    · left
      rw [readYearDigits_short (by omega) (zeroPad_all_isDigit _ _) hrest, Option.bind_none]

/-! ## Moments -/

/-- A day of the calendar and a time of day. -/
structure CivilTime where
  year : Int
  month : Nat
  day : Nat
  clock : Clock
  isDay : IsDay year month day
  isTime : clock.IsTime

namespace CivilTime

/-- The instant of the time, in microseconds. -/
def instant (m : CivilTime) : Int := Calendar.instant m.year m.month m.day m.clock

/-- The fields, as `timestamp2tm` yields them. -/
def tm (m : CivilTime) : PgTm :=
  ⟨m.year, m.month, m.day, m.clock.hour, m.clock.minute, m.clock.second⟩

/-- The fields that are read, in another year. -/
def fields (m : CivilTime) (year : Int) : Fields :=
  ⟨year, m.month, m.day, m.clock, false, 0, 0⟩

theorem offset_fields (m : CivilTime) (year : Int) : (m.fields year).offset = 0 := by
  simp [fields, Fields.offset]

/-- In the right year, the fields denote the moment. -/
theorem instant_fields (m : CivilTime) : (m.fields m.year).instant = some m.instant := by
  rw [Fields.instant, if_pos ⟨m.isDay, m.isTime⟩, offset_fields, Int.zero_mul, Int.sub_zero]
  rfl

/-- In the next year they do not. -/
theorem instant_fields_next (m : CivilTime) :
    (m.fields (m.year + 1)).instant ≠ some m.instant := by
  have hlater := julianDay_lt_next m.year m.month m.day
  rw [Fields.instant, offset_fields, Int.zero_mul, Int.sub_zero, instant, Calendar.instant,
    Calendar.instant, fields]
  split_ifs
  · intro heq
    have hinstant := Option.some.inj heq
    dsimp only at hinstant
    omega
  · exact nofun

/-- The text of the month and the day, before a rest. -/
def monthDayText (m : CivilTime) (rest : Text) : Text :=
  '-' :: (printfD 2 m.month ++ '-' :: (printfD 2 m.day ++ rest))

/-- The text of the time of day, before a rest. -/
def clockText (m : CivilTime) (rest : Text) : Text :=
  ' ' :: (printfD 2 m.clock.hour ++ ':' :: (printfD 2 m.clock.minute ++
    ':' :: (printfD 2 m.clock.second ++ '.' :: (printfD 6 m.clock.micro ++ rest))))

theorem month_lt (m : CivilTime) : m.month < 10 ^ 2 := by
  have := m.isDay.monthLe
  omega

theorem day_lt (m : CivilTime) : m.day < 10 ^ 2 := by
  have := m.isDay.dayLe
  have := daysInMonth_le m.year m.month
  omega

end CivilTime

theorem timestampText_append (m : CivilTime) (rest : Text) :
    timestampText m.tm m.clock.micro ++ rest =
      printfD 4 m.year ++ m.monthDayText (m.clockText rest) := by
  simp [timestampText, CivilTime.tm, CivilTime.monthDayText, CivilTime.clockText]

/-! ## Reading the fields -/

section

variable {es : List Element} {f : Fields} {m : CivilTime} {rest : Text}

theorem readFields_mark (c : Char) :
    readFields (.mark c :: es) f (c :: rest) = readFields es f rest := by
  rw [readFields, readElement, List.head?_cons, if_pos rfl]
  rfl

/-- The fields of a day, after its year has been read. -/
theorem readFields_monthDay : readFields (.mark '-' :: .mm :: .mark '-' :: .dd :: es) f
      (m.monthDayText rest) =
    readFields es { f with month := m.month, day := m.day } rest := by
  rw [CivilTime.monthDayText, readFields_mark, readFields, readElement,
    readDigits_printfD (by decide) m.month_lt,
    Option.map_some, Option.bind_some]
  dsimp only
  rw [readFields_mark, readFields, readElement, readDigits_printfD (by decide) m.day_lt]
  rfl

/-- The fields of a time of day. -/
theorem readFields_clock : readFields (.mark ' ' :: .hh24 :: .mark ':' :: .mi :: .mark ':' :: .ss ::
      .mark '.' :: .ff :: es) f (m.clockText rest) =
    readFields es { f with clock := m.clock } rest := by
  have hhour : m.clock.hour < 10 ^ 2 := Nat.lt_trans m.isTime.hour (by decide)
  have hminute : m.clock.minute < 10 ^ 2 := Nat.lt_trans m.isTime.minute (by decide)
  have hsecond : m.clock.second < 10 ^ 2 := Nat.lt_trans m.isTime.second (by decide)
  rw [CivilTime.clockText, readFields_mark, readFields, readElement,
    readDigits_printfD (by decide) hhour,
    Option.map_some, Option.bind_some]
  dsimp only
  rw [readFields_mark, readFields, readElement, readDigits_printfD (by decide) hminute,
    Option.map_some, Option.bind_some]
  dsimp only
  rw [readFields_mark, readFields, readElement, readDigits_printfD (by decide) hsecond,
    Option.map_some, Option.bind_some]
  dsimp only
  rw [readFields_mark, readFields, readElement, readDigits_printfD (by decide) m.isTime.micro]
  rfl

/-- What is read of a text that starts with a year, from what is read of the year. -/
theorem readFields_year {year : Option Int}
    (hyear : readYear (printfD 4 m.year ++ rest) = year.map fun y => (y, rest)) :
    readFields (.syyyy :: es) f (printfD 4 m.year ++ rest) =
      year.bind fun y => readFields es { f with year := y } rest := by
  rw [readFields, readElement, hyear]
  cases year <;> rfl

end

/-! ## Reading a constant -/

/-- The functions that a constant is a call of. -/
def constantFunctions : List Text :=
  ["TO_DATE".toList, "TO_TIMESTAMP".toList, "TO_TIMESTAMP_TZ".toList]

/-- The moment that the text of a constant denotes, in microseconds of universal time. -/
def readConstant (text : Text) : Option Int :=
  match SqlText.readCallTerm text with
  | some (call, []) =>
    if constantFunctions.contains call.name then FormatMask.read call.second call.first else none
  | _ => none

/-- The microseconds from the start of the count of days to 2000-01-01. -/
def epochInstant : Int := postgresEpochJdate * 86400000000

/-- The moment of a date or timestamp, as PostgreSQL counts from 2000-01-01 on. -/
def instantOf (dataType : Oid) (value : Int) : Int :=
  if dataType = DATEOID then value * 86400000000 + epochInstant else value + epochInstant

/-- The constant is written as a text that denotes its moment. -/
def KeepsMeaning (pg : Postgres) (dataType : Oid) (value : Int) : Prop :=
  ∃ text, Renders (deparseDatum pg (.word value) dataType) (some text) ∧
    readConstant text = some (instantOf dataType value)

theorem keepsMeaning_iff {pg : Postgres} {dataType : Oid} {value : Int} {text : Text}
    (h : datumText pg (.word value) dataType = some text) :
    KeepsMeaning pg dataType value ↔ readConstant text = some (instantOf dataType value) := by
  have hrenders := renders_datum pg (.word value) dataType
  constructor
  · rintro ⟨text', htext', hread⟩
    rw [hrenders.some_iff, h, Option.some.injEq] at htext'
    exact htext' ▸ hread
  · exact fun hread => ⟨text, hrenders.some_iff.mpr h, hread⟩

/-! ## Quotes -/

theorem quote_not_mem_zeroPad (width n : Nat) : '\'' ∉ zeroPad width (decimal n) := by
  intro hmem
  cases List.all_eq_true.mp (zeroPad_all_isDigit width n) _ hmem

theorem quote_not_mem_printfD (width : Nat) (v : Int) : '\'' ∉ printfD width v := by
  rw [printfD]
  split_ifs
  · intro hmem
    rcases List.mem_cons.mp hmem with heq | hmem
    · exact absurd heq (by decide)
    · exact quote_not_mem_zeroPad _ _ hmem
  · exact quote_not_mem_zeroPad _ _

theorem quote_not_mem_printfPlusD (width : Nat) (v : Int) : '\'' ∉ printfPlusD width v := by
  rw [printfPlusD]
  intro hmem
  rcases List.mem_cons.mp hmem with heq | hmem
  · split_ifs at heq <;> exact absurd heq (by decide)
  · exact quote_not_mem_zeroPad _ _ hmem

theorem quote_not_mem_timestampText (tm : PgTm) (fsec : Int) : '\'' ∉ timestampText tm fsec := by
  simp [timestampText, quote_not_mem_printfD]

/-- The text of a call whose arguments have no quotes. -/
theorem callText_eq {name first second : Text} (hfirst : '\'' ∉ first) (hsecond : '\'' ∉ second) :
    SqlText.Call.text ⟨name, first, second⟩ =
      name ++ "('".toList ++ first ++ "', '".toList ++ second ++ "')".toList := by
  rw [SqlText.Call.text, SqlText.escape_eq_self hfirst, SqlText.escape_eq_self hsecond]
  simp

theorem constantFunctions_isWord :
    ∀ name ∈ constantFunctions, name ≠ [] ∧ name.all SqlText.isWordChar = true := by decide

/-! ## The calls that are written -/

/-- The call that a date is written as. -/
def dateCall (pg : Postgres) (date : Int) : SqlText.Call :=
  let (tmYear, tmMon, tmMday) := pg.j2date (date + postgresEpochJdate)
  ⟨"TO_DATE".toList, printfD 4 tmYear ++ '-' :: printfD 2 tmMon ++ '-' :: printfD 2 tmMday,
    "SYYYY-MM-DD".toList⟩

/-- The call that a timestamp is written as. -/
def tsCall (pg : Postgres) (timestamp : Int) : SqlText.Call :=
  let (tm, fsec) := pg.timestamp2tm timestamp
  ⟨"TO_TIMESTAMP".toList, timestampText tm fsec, "SYYYY-MM-DD HH24:MI:SS.FF".toList⟩

/-- The call that a timestamp with a time zone is written as. -/
def tsTzCall (pg : Postgres) (timestamp : Int) : SqlText.Call :=
  let (tzoffset, tm, fsec) := pg.timestamp2tmTz timestamp
  let hours := (-tzoffset).tdiv 3600
  let minutes := (if 0 < tzoffset then tzoffset.tmod 3600 else (-tzoffset).tmod 3600).tdiv 60
  ⟨"TO_TIMESTAMP_TZ".toList,
    timestampText tm fsec ++ printfPlusD 3 hours ++ ':' :: printfD 2 minutes,
    "SYYYY-MM-DD HH24:MI:SS.FF TZH:TZM".toList⟩

theorem dateText_eq_call (pg : Postgres) (date : Int) :
    dateText pg date = '(' :: ((dateCall pg date).text ++ [')']) := by
  unfold dateText dateCall
  obtain ⟨year, month, day⟩ := pg.j2date (date + postgresEpochJdate)
  dsimp only
  have hfirst : '\'' ∉ printfD 4 year ++ '-' :: printfD 2 month ++ '-' :: printfD 2 day := by
    simp [quote_not_mem_printfD]
  have hsecond : '\'' ∉ "SYYYY-MM-DD".toList := by decide
  rw [callText_eq hfirst hsecond]
  simp

theorem tsText_eq_call (pg : Postgres) (timestamp : Int) :
    tsText pg timestamp = '(' :: ((tsCall pg timestamp).text ++ [')']) := by
  unfold tsText tsCall
  obtain ⟨tm, fsec⟩ := pg.timestamp2tm timestamp
  dsimp only
  have hsecond : '\'' ∉ "SYYYY-MM-DD HH24:MI:SS.FF".toList := by decide
  rw [callText_eq (quote_not_mem_timestampText tm fsec) hsecond]
  simp

theorem tsTzText_eq_call (pg : Postgres) (timestamp : Int) :
    tsTzText pg timestamp = (tsTzCall pg timestamp).text := by
  unfold tsTzText tsTzCall
  obtain ⟨tzoffset, tm, fsec⟩ := pg.timestamp2tmTz timestamp
  dsimp only
  generalize (-tzoffset).tdiv 3600 = hours
  generalize (if 0 < tzoffset then tzoffset.tmod 3600 else (-tzoffset).tmod 3600).tdiv 60 = minutes
  have hfirst : '\'' ∉ timestampText tm fsec ++ printfPlusD 3 hours ++
      ':' :: printfD 2 minutes := by
    simp [quote_not_mem_timestampText, quote_not_mem_printfPlusD, quote_not_mem_printfD]
  have hsecond : '\'' ∉ "SYYYY-MM-DD HH24:MI:SS.FF TZH:TZM".toList := by decide
  rw [callText_eq hfirst hsecond]
  simp

/-- A call is read as its first argument under the mask of its second. -/
theorem readConstant_text {name : Text} (hname : name ∈ constantFunctions) (first second : Text) :
    readConstant (SqlText.Call.text ⟨name, first, second⟩) = FormatMask.read second first := by
  have hword := constantFunctions_isWord name hname
  have hread := @SqlText.readCallTerm_text ⟨name, first, second⟩ hword.1 hword.2 []
  rw [List.append_nil] at hread
  rw [readConstant, hread]
  exact if_pos (List.contains_iff_mem.mpr hname)

theorem readConstant_parenthesised {name : Text} (hname : name ∈ constantFunctions)
    (first second : Text) :
    readConstant ('(' :: (SqlText.Call.text ⟨name, first, second⟩ ++ [')'])) =
      FormatMask.read second first := by
  have hword := constantFunctions_isWord name hname
  rw [readConstant, SqlText.readCallTerm_parenthesised hword.1 hword.2]
  exact if_pos (List.contains_iff_mem.mpr hname)

/-! ## Without a time zone -/

/-- The backend breaks a finite constant down into the fields of the moment. -/
inductive BreaksDown (pg : Postgres) : Oid → Int → CivilTime → Prop where
  | date {value : Int} {m : CivilTime} (finite : dateNotFinite value = false)
    (fields : pg.j2date (value + postgresEpochJdate) = (m.year, (m.month : Int), (m.day : Int)))
    (midnight : m.clock = ⟨0, 0, 0, 0⟩) (counted : m.instant = instantOf DATEOID value) :
    BreaksDown pg DATEOID value m
  | timestamp {value : Int} {m : CivilTime} (finite : timestampNotFinite value = false)
    (fields : pg.timestamp2tm value = (m.tm, (m.clock.micro : Int)))
    (counted : m.instant = instantOf TIMESTAMPOID value) : BreaksDown pg TIMESTAMPOID value m

namespace BreaksDown

variable {pg : Postgres} {dataType : Oid} {value : Int} {m : CivilTime}

theorem counted_eq (h : BreaksDown pg dataType value m) :
    m.instant = instantOf dataType value := by
  cases h with
  | date _ _ _ counted => exact counted
  | timestamp _ _ counted => exact counted

theorem dateCall_eq (fields : pg.j2date (value + postgresEpochJdate) =
      (m.year, (m.month : Int), (m.day : Int))) :
    dateCall pg value =
      ⟨"TO_DATE".toList, printfD 4 m.year ++ m.monthDayText [], "SYYYY-MM-DD".toList⟩ := by
  unfold dateCall
  rw [fields]
  simp [CivilTime.monthDayText]

theorem tsCall_eq (fields : pg.timestamp2tm value = (m.tm, (m.clock.micro : Int))) :
    tsCall pg value = ⟨"TO_TIMESTAMP".toList, printfD 4 m.year ++ m.monthDayText (m.clockText []),
      "SYYYY-MM-DD HH24:MI:SS.FF".toList⟩ := by
  unfold tsCall
  rw [fields, ← timestampText_append, List.append_nil]

theorem datumText_eq (h : BreaksDown pg dataType value m) :
    datumText pg (.word value) dataType =
      some (if dataType = DATEOID then dateText pg value else tsText pg value) := by
  cases h with
  | date finite => exact datumText_date pg finite
  | timestamp finite => exact datumText_ts pg finite

/-- What is read of the constant, from what is read of its year. -/
theorem readConstant_eq (h : BreaksDown pg dataType value m) : ∃ text rest,
    datumText pg (.word value) dataType = some text ∧ rest.head?.any Char.isDigit = false ∧
      ∀ year : Option Int, readYear (printfD 4 m.year ++ rest) = year.map (fun y => (y, rest)) →
        readConstant text = year.bind fun y => (m.fields y).instant := by
  rw [h.datumText_eq]
  cases h with
  | date finite fields midnight =>
    refine ⟨_, m.monthDayText [], congrArg some (dateText_eq_call pg value), rfl, ?_⟩
    intro year hyear
    -- the mask has no time of day, so midnight is read
    have hmask : elements "SYYYY-MM-DD".toList =
        [.syyyy, .mark '-', .mm, .mark '-', .dd] := by rfl
    rw [dateCall_eq fields, readConstant_parenthesised (by decide), FormatMask.read, hmask,
      readFields_year hyear]
    cases year with
    | none => rfl
    | some y =>
      rw [Option.bind_some, Option.bind_some, readFields_monthDay, CivilTime.fields, midnight]
      rfl
  | timestamp finite fields =>
    refine ⟨_, m.monthDayText (m.clockText []), congrArg some (tsText_eq_call pg value), rfl, ?_⟩
    intro year hyear
    have hmask : elements "SYYYY-MM-DD HH24:MI:SS.FF".toList =
        [.syyyy, .mark '-', .mm, .mark '-', .dd, .mark ' ', .hh24, .mark ':', .mi, .mark ':', .ss,
          .mark '.', .ff] := by rfl
    rw [tsCall_eq fields, readConstant_parenthesised (by decide), FormatMask.read, hmask,
      readFields_year hyear]
    cases year with
    | none => rfl
    | some y =>
      rw [Option.bind_some, readFields_monthDay, readFields_clock]
      rfl

end BreaksDown

/-- **Dates and timestamps keep their meaning from the year 1 on**, and only there. The text has
the year without its era, so that a date before Christ becomes another date at the remote
side. -/
theorem keepsMeaning_iff_anno_domini {pg : Postgres} {dataType : Oid} {value : Int} {m : CivilTime}
    (h : BreaksDown pg dataType value m) : KeepsMeaning pg dataType value ↔ 1 ≤ m.year := by
  obtain ⟨text, rest, htext, hrest, hread⟩ := h.readConstant_eq
  rw [keepsMeaning_iff htext, ← h.counted_eq]
  by_cases hpos : 1 ≤ m.year
  · -- the year that is read is the astronomical one
    have hmeant : readConstant text = some m.instant := by
      rw [hread (some m.year) (readYear_pos hpos hrest), Option.bind_some, m.instant_fields]
    exact iff_of_true hmeant hpos
  · -- the mask counts the same digits from 1 BC, or reads none
    have hlost : readConstant text ≠ some m.instant := by
      have hle : m.year ≤ 0 := by omega
      rcases readYear_nonpos hle hrest with hnone | hnext
      · rw [hread none hnone]
        exact nofun
      · rw [hread (some (m.year + 1)) hnext, Option.bind_some]
        exact m.instant_fields_next
    exact iff_of_false hlost hpos

/-- `j2date` and `timestamp2tm` of days that are not too early. -/
def Postgres.smallJ2date (julian : Int) : Int × Int × Int :=
  let quad := (julian + 32044) / 146097
  let extra := (julian + 32044 - quad * 146097) * 4 + 3
  let shifted := julian + 32044 + 60 + quad * 3 + extra / 146097
  let rest := shifted - shifted / 1461 * 1461
  let y := rest * 4 / 1461
  let dayOfYear := (if y ≠ 0 then (rest + 305) % 365 else (rest + 306) % 366) + 123
  let month := dayOfYear * 2141 / 65536
  (y + shifted / 1461 * 4 - 4800, (month + 10) % 12 + 1, dayOfYear - 7834 * month / 256)

/-- A backend with a calendar. -/
def Postgres.smallCalendar : Postgres where
  __ := Postgres.small
  j2date := smallJ2date
  timestamp2tm := fun timestamp =>
    let (year, month, day) := smallJ2date (timestamp / 86400000000 + postgresEpochJdate)
    let second := timestamp % 86400000000 / 1000000
    (⟨year, month, day, second / 3600, second % 3600 / 60, second % 60⟩, timestamp % 1000000)

/-- A leap day in the afternoon. -/
theorem leapDay_keepsMeaning :
    KeepsMeaning .smallCalendar TIMESTAMPOID 762528005123456 :=
  (keepsMeaning_iff_anno_domini (m := ⟨2024, 2, 29, ⟨13, 20, 5, 123456⟩, by decide, by decide⟩)
    (.timestamp (by decide) rfl (by decide +kernel))).mpr (by decide)

/-- The 1st of March of 1001 BC is written as if it were in 1000 BC. -/
theorem beforeChrist_shifted : ∃ (value : Int) (m : CivilTime),
    BreaksDown .smallCalendar DATEOID value m ∧ -4711 ≤ m.year ∧ m.year ≤ 9999 ∧
      ¬ KeepsMeaning .smallCalendar DATEOID value := by
  have htext : datumText .smallCalendar (.word (-1095668)) DATEOID =
      some "(TO_DATE('-1000-03-01', 'SYYYY-MM-DD'))".toList := by decide +kernel
  refine ⟨-1095668, ⟨-1000, 3, 1, ⟨0, 0, 0, 0⟩, by decide, by decide⟩,
    .date (by decide) (by decide +kernel) rfl (by decide +kernel), by decide, by decide, ?_⟩
  rw [keepsMeaning_iff htext]
  decide +kernel

/-! ## With a time zone -/

/-- The backend breaks a finite constant down into local time, which is so many seconds behind
universal time. -/
structure BreaksDownAt (pg : Postgres) (value tzoffset : Int) (m : CivilTime) : Prop where
  finite : timestampNotFinite value = false
  fields : pg.timestamp2tmTz value = (tzoffset, m.tm, (m.clock.micro : Int))
  counted : m.instant = instantOf TIMESTAMPTZOID value - tzoffset * 1000000
  offset : tzoffset.natAbs < 57600

/-- The sign that is written of an offset: that of its hours. -/
def zoneSign (tzoffset : Int) : Char := if 3600 ≤ tzoffset then '-' else '+'

/-- The text of an offset, before a rest. -/
def zoneText (tzoffset : Int) (rest : Text) : Text :=
  zoneSign tzoffset :: (printfD 2 (tzoffset.natAbs / 3600 : Nat) ++
    ':' :: (printfD 2 (tzoffset.natAbs % 3600 / 60 : Nat) ++ rest))

theorem zoneHours_eq (tzoffset : Int) : printfPlusD 3 ((-tzoffset).tdiv 3600) =
    zoneSign tzoffset :: printfD 2 (tzoffset.natAbs / 3600 : Nat) := by
  have habs : ((-tzoffset).tdiv 3600).natAbs = tzoffset.natAbs / 3600 := by
    rw [Int.natAbs_tdiv, Int.natAbs_neg]
    rfl
  -- division truncates toward zero: less than an hour west gives `+00`
  have hsign : (-tzoffset).tdiv 3600 < 0 ↔ 3600 ≤ tzoffset := by
    rw [Int.neg_tdiv]
    rcases Int.le_total 0 tzoffset with hnonneg | hneg
    · rw [Int.tdiv_eq_ediv_of_nonneg hnonneg]
      omega
    · have hle : 0 ≤ -tzoffset.tdiv 3600 := by
        rw [← Int.neg_tdiv]
        exact Int.tdiv_nonneg (by omega) (by decide)
      omega
  rw [printfPlusD, habs, printfD_natCast, zoneSign]
  simp only [hsign]

theorem zoneMinutes_eq (tzoffset : Int) :
    (if 0 < tzoffset then tzoffset.tmod 3600 else (-tzoffset).tmod 3600).tdiv 60 =
      (tzoffset.natAbs % 3600 / 60 : Nat) := by
  have habs : (if 0 < tzoffset then tzoffset.tmod 3600 else (-tzoffset).tmod 3600) =
      (tzoffset.natAbs % 3600 : Nat) := by
    split_ifs with hpos
    · rw [Int.tmod_eq_emod_of_nonneg (Int.le_of_lt hpos)]
      omega
    · rw [Int.tmod_eq_emod_of_nonneg (by omega)]
      omega
  rw [habs, Int.tdiv_eq_ediv_of_nonneg (by omega)]
  omega

/-- The fields that are read of a local time and an offset. -/
def zonedFields (m : CivilTime) (tzoffset : Int) : Fields :=
  ⟨m.year, m.month, m.day, m.clock, decide (3600 ≤ tzoffset), tzoffset.natAbs / 3600,
    tzoffset.natAbs % 3600 / 60⟩

/-- The offset that is read is the one that was written when that has no seconds, and does not
lose its sign. -/
theorem offset_zonedFields (m : CivilTime) (tzoffset : Int) :
    (zonedFields m tzoffset).offset = -tzoffset ↔
      60 ∣ tzoffset ∧ ¬ (0 < tzoffset ∧ tzoffset < 3600) := by
  rw [Fields.offset, zonedFields]
  by_cases hbehind : 3600 ≤ tzoffset
  · simp only [decide_eq_true hbehind, if_true]
    omega
  · simp only [decide_eq_false hbehind, Bool.false_eq_true, if_false]
    omega

/-- The fields of an offset, behind a blank that is missing. -/
theorem readFields_zone {f : Fields} {tzoffset : Int} (hoffset : tzoffset.natAbs < 57600) :
    readFields [.mark ' ', .tzh, .mark ':', .tzm] f (zoneText tzoffset []) =
      some { f with
        zoneNegative := decide (3600 ≤ tzoffset)
        zoneHour := tzoffset.natAbs / 3600
        zoneMinute := tzoffset.natAbs % 3600 / 60 } := by
  -- the mask has a blank where the text goes on with the sign
  have hblank : readElement f (zoneText tzoffset []) (.mark ' ') =
      some (f, zoneText tzoffset []) := by
    rw [readElement, zoneText, zoneSign, List.head?_cons]
    split_ifs <;> first | rfl | contradiction
  have hsign : ∀ rest, readSign (zoneSign tzoffset :: rest) =
      some (decide (3600 ≤ tzoffset), rest) := by
    intro rest
    rw [zoneSign]
    split_ifs with hbehind
    · rw [readSign, decide_eq_true hbehind]
    · rw [readSign, decide_eq_false hbehind]
  have hhour : tzoffset.natAbs / 3600 < 10 ^ 2 := by omega
  have hminute : tzoffset.natAbs % 3600 / 60 < 10 ^ 2 := by omega
  rw [readFields, hblank, Option.bind_some]
  dsimp only
  rw [zoneText, readFields, readElement, hsign, Option.bind_some]
  dsimp only
  rw [readDigits_printfD (by decide) hhour, Option.map_some, Option.bind_some]
  dsimp only
  rw [readFields_mark, readFields, readElement, readDigits_printfD (by decide) hminute]
  rfl

namespace BreaksDownAt

variable {pg : Postgres} {value tzoffset : Int} {m : CivilTime}

/-- The text of a timestamp with a time zone. -/
theorem datumText_eq (h : BreaksDownAt pg value tzoffset m) :
    datumText pg (.word value) TIMESTAMPTZOID = some (SqlText.Call.text
      ⟨"TO_TIMESTAMP_TZ".toList,
        printfD 4 m.year ++ m.monthDayText (m.clockText (zoneText tzoffset [])),
        "SYYYY-MM-DD HH24:MI:SS.FF TZH:TZM".toList⟩) := by
  have htext : datumText pg (.word value) TIMESTAMPTZOID = some (tsTzText pg value) :=
    datumText_tsTz pg h.finite
  have hcall : tsTzCall pg value = ⟨"TO_TIMESTAMP_TZ".toList,
      printfD 4 m.year ++ m.monthDayText (m.clockText (zoneText tzoffset [])),
      "SYYYY-MM-DD HH24:MI:SS.FF TZH:TZM".toList⟩ := by
    unfold tsTzCall
    rw [h.fields]
    dsimp only
    rw [zoneHours_eq, zoneMinutes_eq, ← timestampText_append, zoneText]
    simp
  rw [htext, tsTzText_eq_call, hcall]

/-- What is read of the constant. -/
theorem readConstant_eq (hoffset : tzoffset.natAbs < 57600) (hyear : 1 ≤ m.year) :
    readConstant (SqlText.Call.text ⟨"TO_TIMESTAMP_TZ".toList,
      printfD 4 m.year ++ m.monthDayText (m.clockText (zoneText tzoffset [])),
      "SYYYY-MM-DD HH24:MI:SS.FF TZH:TZM".toList⟩) =
    some (m.instant - (zonedFields m tzoffset).offset * 1000000) := by
  have hmask : elements "SYYYY-MM-DD HH24:MI:SS.FF TZH:TZM".toList =
      [.syyyy, .mark '-', .mm, .mark '-', .dd, .mark ' ', .hh24, .mark ':', .mi, .mark ':', .ss,
        .mark '.', .ff, .mark ' ', .tzh, .mark ':', .tzm] := by rfl
  have hread : readYear (printfD 4 m.year ++ m.monthDayText (m.clockText (zoneText tzoffset []))) =
      (some m.year).map fun y => (y, m.monthDayText (m.clockText (zoneText tzoffset []))) :=
    readYear_pos hyear rfl
  rw [readConstant_text (by decide), FormatMask.read, hmask, readFields_year hread,
    Option.bind_some, readFields_monthDay, readFields_clock, readFields_zone hoffset]
  exact if_pos ⟨m.isDay, m.isTime⟩

end BreaksDownAt

/-- **Timestamps with a time zone keep their instant** when the offset of the zone is in whole
minutes and not less than an hour west, and only then. The text has hours and minutes of the
offset, the sign comes with the hours, and the seconds of a local mean time are dropped. -/
theorem keepsInstant_iff {pg : Postgres} {value tzoffset : Int} {m : CivilTime}
    (h : BreaksDownAt pg value tzoffset m) (hyear : 1 ≤ m.year) :
    KeepsMeaning pg TIMESTAMPTZOID value ↔
      60 ∣ tzoffset ∧ ¬ (0 < tzoffset ∧ tzoffset < 3600) := by
  rw [keepsMeaning_iff h.datumText_eq, BreaksDownAt.readConstant_eq h.offset hyear,
    ← offset_zonedFields m tzoffset, h.counted, Option.some.injEq]
  omega

/-- A backend in a zone that is so many seconds behind universal time. -/
def Postgres.inZone (tzoffset : Int) : Postgres where
  __ := Postgres.smallCalendar
  timestamp2tmTz := fun timestamp =>
    (tzoffset, Postgres.smallCalendar.timestamp2tm (timestamp - tzoffset * 1000000))

/-- Nine hours east. -/
theorem seoul_keepsMeaning : KeepsMeaning (.inZone (-32400)) TIMESTAMPTZOID 762528005123456 :=
  (keepsInstant_iff (m := ⟨2024, 2, 29, ⟨22, 20, 5, 123456⟩, by decide, by decide⟩)
    ⟨by decide, rfl, by decide +kernel, by decide⟩ (by decide)).mpr (by decide)

/-- Of the local time that was in use before 1908, 52 seconds are lost. -/
theorem localMeanTime_loses : ∃ (value : Int) (m : CivilTime),
    BreaksDownAt (.inZone (-30472)) value (-30472) m ∧ 1 ≤ m.year ∧ m.year ≤ 9999 ∧
      ¬ KeepsMeaning (.inZone (-30472)) TIMESTAMPTZOID value := by
  have htext : datumText (.inZone (-30472)) (.word (-3155673600000000)) TIMESTAMPTZOID =
      some ("TO_TIMESTAMP_TZ('1900-01-01 08:27:52.000000+08:27', ".toList ++
        "'SYYYY-MM-DD HH24:MI:SS.FF TZH:TZM')".toList) := by decide +kernel
  refine ⟨-3155673600000000, ⟨1900, 1, 1, ⟨8, 27, 52, 0⟩, by decide, by decide⟩,
    ⟨by decide, rfl, by decide +kernel, by decide⟩, by decide, by decide, ?_⟩
  rw [keepsMeaning_iff htext]
  decide +kernel

end TiberoFdw
