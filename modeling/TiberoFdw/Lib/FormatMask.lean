import TiberoFdw.Lib.Calendar

/-!
# Format masks

A format mask says how a text is read as a moment: a sequence of elements, each of which
reads some characters into its field, and marks that stand for themselves; the text may
leave out a blank. The year of `SYYYY` has at least four digits and may have a sign, there
is no year zero, and `-0001` is 1 BC. `FF` reads six fractional digits, and the sign of
`TZH` is the sign of `TZM` too.
-/

namespace FormatMask

/-- An element of a mask: a field of a datetime, or a text that stands for itself. -/
inductive Element : Type where
  | syyyy
  | mm
  | dd
  | hh24
  | mi
  | ss
  | ff
  | tzh
  | tzm
  /-- a character that stands for itself -/
  | mark (c : Char)
  deriving DecidableEq

/-- The elements of a mask. -/
def elements : List Char → List Element
  | 'S' :: 'Y' :: 'Y' :: 'Y' :: 'Y' :: rest => .syyyy :: elements rest
  | 'M' :: 'M' :: rest => .mm :: elements rest
  | 'D' :: 'D' :: rest => .dd :: elements rest
  | 'H' :: 'H' :: '2' :: '4' :: rest => .hh24 :: elements rest
  | 'M' :: 'I' :: rest => .mi :: elements rest
  | 'S' :: 'S' :: rest => .ss :: elements rest
  | 'F' :: 'F' :: rest => .ff :: elements rest
  | 'T' :: 'Z' :: 'H' :: rest => .tzh :: elements rest
  | 'T' :: 'Z' :: 'M' :: rest => .tzm :: elements rest
  | c :: rest => .mark c :: elements rest
  | [] => []

/-- What has been read. -/
structure Fields where
  /-- with 0 for 1 BC -/
  year : Int
  month : Nat
  day : Nat
  clock : Calendar.Clock
  /-- local time is behind universal time -/
  zoneNegative : Bool
  zoneHour : Nat
  zoneMinute : Nat
  deriving DecidableEq

/-- Before anything is read. -/
def Fields.start : Fields := ⟨0, 1, 1, ⟨0, 0, 0, 0⟩, false, 0, 0⟩

/-- The seconds that local time is ahead of universal time. -/
def Fields.offset (f : Fields) : Int :=
  if f.zoneNegative then -(f.zoneHour * 3600 + f.zoneMinute * 60 : Int)
  else f.zoneHour * 3600 + f.zoneMinute * 60

/-- The moment that the fields denote, in microseconds of universal time. -/
def Fields.instant (f : Fields) : Option Int :=
  if Calendar.IsDay f.year f.month f.day ∧ f.clock.IsTime then
    some (Calendar.instant f.year f.month f.day f.clock - f.offset * 1000000)
  else none

/-! ## Reading -/

/-- Read a number of so many digits. -/
def readDigits (width : Nat) (text : List Char) : Option (Nat × List Char) :=
  if width ≤ text.length ∧ (text.take width).all Char.isDigit = true then
    some (Nat.ofDigitChars 10 (text.take width) 0, text.drop width)
  else none

/-- Read the digits of a year. -/
def readYearDigits (text : List Char) : Option (Nat × List Char) :=
  if 4 ≤ (text.takeWhile Char.isDigit).length then
    some (Nat.ofDigitChars 10 (text.takeWhile Char.isDigit) 0, text.dropWhile Char.isDigit)
  else none

/-- Read a year with its sign. -/
def readYear : List Char → Option (Int × List Char)
  | '-' :: text => (readYearDigits text).bind fun (v, rest) =>
    if v = 0 then none else some (1 - (v : Int), rest)
  | text =>
    (readYearDigits text).bind fun (v, rest) => if v = 0 then none else some ((v : Int), rest)

/-- Read a sign, and whether it is negative. -/
def readSign : List Char → Option (Bool × List Char)
  | '-' :: text => some (true, text)
  | '+' :: text => some (false, text)
  | _ => none

/-- Read one element. -/
def readElement (f : Fields) (text : List Char) : Element → Option (Fields × List Char)
  | .syyyy => (readYear text).map fun (v, rest) => ({ f with year := v }, rest)
  | .mm => (readDigits 2 text).map fun (v, rest) => ({ f with month := v }, rest)
  | .dd => (readDigits 2 text).map fun (v, rest) => ({ f with day := v }, rest)
  | .hh24 => (readDigits 2 text).map fun (v, rest) =>
    ({ f with clock := { f.clock with hour := v } }, rest)
  | .mi => (readDigits 2 text).map fun (v, rest) =>
    ({ f with clock := { f.clock with minute := v } }, rest)
  | .ss => (readDigits 2 text).map fun (v, rest) =>
    ({ f with clock := { f.clock with second := v } }, rest)
  | .ff => (readDigits 6 text).map fun (v, rest) =>
    ({ f with clock := { f.clock with micro := v } }, rest)
  | .tzh => (readSign text).bind fun (negative, rest) => (readDigits 2 rest).map fun (v, rest) =>
    ({ f with zoneNegative := negative, zoneHour := v }, rest)
  | .tzm => (readDigits 2 text).map fun (v, rest) => ({ f with zoneMinute := v }, rest)
  | .mark c =>
    if text.head? = some c then some (f, text.tail)
    -- a blank may be missing
    else if c = ' ' then some (f, text)
    else none

/-- Read a whole text, element by element. -/
def readFields : List Element → Fields → List Char → Option Fields
  | [], f, [] => some f
  | [], _, _ :: _ => none
  | e :: rest, f, text => (readElement f text e).bind fun (f, text) => readFields rest f text

/-- The moment that a text denotes under a mask. -/
def read (mask text : List Char) : Option Int :=
  (readFields (elements mask) .start text).bind Fields.instant

section

variable {f : Fields} {rest : List Char}

/-- Digits of the right number are read. -/
theorem readDigits_append {digits : List Char} {width : Nat} (hlength : digits.length = width)
    (hdigits : digits.all Char.isDigit = true) (rest : List Char) :
    readDigits width (digits ++ rest) = some (Nat.ofDigitChars 10 digits 0, rest) := by
  rw [readDigits, ← hlength, List.take_left, List.drop_left]
  exact if_pos ⟨by simp, hdigits⟩

/-- The digits of a year end where the digits end. -/
theorem readYearDigits_append {digits : List Char} (hlength : 4 ≤ digits.length)
    (hdigits : digits.all Char.isDigit = true) (hrest : rest.head?.any Char.isDigit = false) :
    readYearDigits (digits ++ rest) = some (Nat.ofDigitChars 10 digits 0, rest) := by
  have hall := List.all_eq_true.mp hdigits
  have htake : rest.takeWhile Char.isDigit = [] ∧ rest.dropWhile Char.isDigit = rest := by
    cases rest with
    | nil => exact ⟨rfl, rfl⟩
    | cons c rest =>
      have hc : c.isDigit = false := by simpa using hrest
      simp [hc]
  rw [readYearDigits, List.takeWhile_append_of_pos hall, List.dropWhile_append_of_pos hall, htake.1,
    htake.2, List.append_nil]
  exact if_pos hlength

/-- A year without a sign. -/
theorem readYear_unsigned {text : List Char} (h : text.head? ≠ some '-') :
    readYear text = (readYearDigits text).bind fun (v, rest) =>
      if v = 0 then none else some ((v : Int), rest) := by
  rw [readYear.eq_2]
  rintro rest rfl
  exact h rfl

/-- Fewer than four digits are no year. -/
theorem readYearDigits_short {digits : List Char} (hlength : digits.length < 4)
    (hdigits : digits.all Char.isDigit = true) (hrest : rest.head?.any Char.isDigit = false) :
    readYearDigits (digits ++ rest) = none := by
  have hall := List.all_eq_true.mp hdigits
  have htake : rest.takeWhile Char.isDigit = [] := by
    cases rest with
    | nil => rfl
    | cons c rest =>
      have hc : c.isDigit = false := by simpa using hrest
      simp [hc]
  rw [readYearDigits, List.takeWhile_append_of_pos hall, htake, List.append_nil]
  exact if_neg (by omega)

end

end FormatMask
