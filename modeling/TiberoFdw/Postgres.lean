import TiberoFdw.Lib.SqlText

/-!
# What the wrapper takes from PostgreSQL

The data that PostgreSQL hands to the wrapper and the functions of the backend
that the wrapper calls: object identifiers, errors, option lists, attributes,
datums, expression nodes, and the catalog lookups, which are gathered in one
structure `Postgres` and stay abstract.

Text is a list of characters throughout: every text the wrapper builds is built
by appending to a buffer, and every text it reads is read from the front.
-/

namespace TiberoFdw

/-- A text, as the characters of a NUL-terminated string: one for each byte. -/
abbrev Text := List Char

/-! ## Object identifiers and attribute numbers -/

/-- An object identifier of the catalog. -/
abbrev Oid := Nat

/-- `InvalidOid`: no object. -/
def invalidOid : Oid := 0

/-- `OidIsValid`. -/
def oidIsValid (oid : Oid) : Bool := decide (oid ≠ invalidOid)

/-- Objects below this identifier are assigned by hand in the catalog sources. -/
def firstGenbkiObjectId : Oid := 10000

/-- `DEFAULT_COLLATION_OID`, the collation of the database. -/
def defaultCollationOid : Oid := 100

/-- `PG_CATALOG_NAMESPACE`, the schema of what is built in. -/
def pgCatalogNamespace : Oid := 11

/-- The type boolean. -/
def BOOLOID : Oid := 16

/-- The type bytea. -/
def BYTEAOID : Oid := 17

/-- The type "char", of a single byte. -/
def CHAROID : Oid := 18

/-- The type name. -/
def NAMEOID : Oid := 19

/-- The type bigint. -/
def INT8OID : Oid := 20

/-- The type smallint. -/
def INT2OID : Oid := 21

/-- The type integer. -/
def INT4OID : Oid := 23

/-- The type text. -/
def TEXTOID : Oid := 25

/-- The type oid. -/
def OIDOID : Oid := 26

/-- The type json. -/
def JSONOID : Oid := 114

/-- The type real. -/
def FLOAT4OID : Oid := 700

/-- The type double precision. -/
def FLOAT8OID : Oid := 701

/-- The type character, which pads with blanks. -/
def BPCHAROID : Oid := 1042

/-- The type character varying. -/
def VARCHAROID : Oid := 1043

/-- The type date. -/
def DATEOID : Oid := 1082

/-- The type time. -/
def TIMEOID : Oid := 1083

/-- The type timestamp without time zone. -/
def TIMESTAMPOID : Oid := 1114

/-- The type timestamp with time zone. -/
def TIMESTAMPTZOID : Oid := 1184

/-- The type interval. -/
def INTERVALOID : Oid := 1186

/-- The type bit. -/
def BITOID : Oid := 1560

/-- The type numeric. -/
def NUMERICOID : Oid := 1700

/-- The type uuid. -/
def UUIDOID : Oid := 2950

/-- The pseudo-type of all enumerations. -/
def ANYENUMOID : Oid := 3500

/-- The operator `~` on character. -/
def OID_BPCHAR_REGEXEQ_OP : Oid := 1055

/-- The operator `~~` on name. -/
def OID_NAME_LIKE_OP : Oid := 1207

/-- The operator `~~` on text. -/
def OID_TEXT_LIKE_OP : Oid := 1209

/-- The operator `~~` on character. -/
def OID_BPCHAR_LIKE_OP : Oid := 1211

/-- The system column `ctid`. -/
def selfItemPointerAttributeNumber : Int := -1

/-- The offset of attribute numbers in attribute bitmaps. -/
def firstLowInvalidHeapAttributeNumber : Int := -7

/-- A set of small integers. -/
abbrev Bitmapset := List Int

/-- `bms_is_member`. -/
def bmsIsMember (x : Int) (s : Bitmapset) : Bool := decide (x ∈ s)

/-! ## Errors -/

/-- The error codes the wrapper raises and catches. -/
inductive SqlState : Type where
  | fdwError
  | fdwUnableToEstablishConnection
  | fdwInvalidDataType
  | fdwInvalidAttributeValue
  | fdwInvalidOptionName
  | invalidParameterValue
  | syntaxError
  | invalidTextRepresentation
  | internalError
  deriving DecidableEq

/-- An error as `ereport(ERROR, …)` raises it. -/
structure PgError where
  /-- `errcode` -/
  sqlerrcode : SqlState
  /-- `errmsg` -/
  errmsg : String
  deriving DecidableEq

/-! ## Options, attributes and relations -/

/-- One option of a server, user mapping, table or column. -/
structure DefElem where
  defname : String
  /-- the value, as `defGetString` returns it -/
  arg : Text
  deriving DecidableEq

/-- A foreign server. -/
structure ForeignServer where
  serverid : Oid
  options : List DefElem

/-- A user mapping. -/
structure UserMapping where
  umid : Oid
  serverid : Oid
  options : List DefElem

/-- A row of `pg_attribute`, with the options of the foreign column. -/
structure FormPgAttribute where
  attname : Text
  atttypid : Oid
  atttypmod : Int
  attisdropped : Bool
  attgenerated : Bool
  /-- `GetForeignColumnOptions` of the column -/
  options : List DefElem

/-- A tuple descriptor; attribute number `i` is at position `i - 1`. -/
abbrev TupleDesc := List FormPgAttribute

/-- `TupleDescAttr(tupdesc, i)`, with `i` counted from zero. -/
def tupleDescAttr (tupdesc : TupleDesc) (i : Nat) : Option FormPgAttribute := tupdesc[i]?

/-- An open foreign table: its name, its columns and its options. -/
structure Relation where
  relname : Text
  tupdesc : TupleDesc
  /-- the options of `GetForeignTable` -/
  options : List DefElem

/-! ## Datums -/

/-- A datum, by the representations PostgreSQL has for values. -/
inductive Datum : Type where
  /-- passed by value -/
  | word (value : Int)
  /-- a pointer to a NUL-terminated string -/
  | cstring (text : Text)
  /-- a pointer to fixed-length or variable-length storage -/
  | memory (bytes : List UInt8)
  deriving DecidableEq

/-- The integer in a pass-by-value datum. -/
def Datum.toInt : Datum → Int
  | .word v => v
  | _ => 0

/-- What reading the datum as a C string yields: the string itself when the
representation is one, the bytes up to the first zero when the storage has a
zero byte, and nothing (an access outside the datum) otherwise. -/
def Datum.getCString : Datum → Option Text
  | .word _ => none
  | .cstring text => some text
  | .memory bytes =>
    if 0 ∈ bytes then
      some ((bytes.takeWhile (· ≠ 0)).map fun b => Char.ofNat b.toNat)
    else none

/-! ## Expression nodes -/

/-- `Var`: an attribute of a relation of the range table, or of one of an outer query. -/
structure Var where
  varno : Nat
  varattno : Int
  vartype : Oid
  varcollid : Oid
  varlevelsup : Nat

/-- `Const`: a constant of a type, or null. -/
structure Const where
  consttype : Oid
  constcollid : Oid
  constvalue : Datum
  constisnull : Bool

/-- `Param`: a parameter of the query. -/
structure Param where
  /-- the parameter is a `PARAM_MULTIEXPR` -/
  multiexpr : Bool
  paramcollid : Oid

/-- An expression tree. Every node kind the wrapper tells apart has its own
constructor; the remaining kinds share `other`. -/
inductive Node : Type where
  | var (v : Var)
  | const (c : Const)
  | param (p : Param)
  | funcExpr (funcid inputcollid funccollid : Oid) (args : List Node)
  | opExpr (opno inputcollid opcollid : Oid) (args : List Node)
  | distinctExpr (opno inputcollid opcollid : Oid) (args : List Node)
  | boolExpr (args : List Node)
  | nullTest (arg : Node)
  | arrayExpr (arrayCollid : Oid) (elements : List Node)
  | list (elements : List Node)
  | aggref (aggfnoid : Oid) (aggsplitSimple : Bool) (args : List Node)
  | other (tag : Nat) (args : List Node)

/-- The node is a `List`. -/
def Node.isList : Node → Bool
  | .list _ => true
  | _ => false

/-! ## Planner structures -/

/-- A restriction clause. Two clauses are the same object when they have the
same address. -/
structure RestrictInfo where
  address : Nat
  clause : Node
  pseudoconstant : Bool

/-- `reloptkind`. -/
inductive RelOptKind : Type where
  | baserel
  | otherMemberRel
  | joinrel
  | upperRel
  deriving DecidableEq

/-- The fields of a planner relation that the wrapper reads. -/
structure RelOptInfo where
  reloptkind : RelOptKind
  relid : Nat
  relids : List Nat
  /-- the relids of the outer relation of an upper relation -/
  outerRelids : List Nat
  baserestrictinfo : List RestrictInfo
  /-- `reltarget->exprs` -/
  targetExprs : List Node

/-- `IS_SIMPLE_REL`. -/
def RelOptInfo.isSimpleRel (rel : RelOptInfo) : Bool :=
  decide (rel.reloptkind = .baserel ∨ rel.reloptkind = .otherMemberRel)

/-- `IS_JOIN_REL`. -/
def RelOptInfo.isJoinRel (rel : RelOptInfo) : Bool := decide (rel.reloptkind = .joinrel)

/-- `IS_UPPER_REL`. -/
def RelOptInfo.isUpperRel (rel : RelOptInfo) : Bool := decide (rel.reloptkind = .upperRel)

/-- The planner's range table: `planner_rt_fetch` and the table it names. -/
structure PlannerInfo where
  rtFetch : Nat → Relation

/-! ## The backend functions -/

/-- `oprkind` of an operator. -/
inductive OprKind : Type where
  /-- prefix -/
  | left
  /-- infix -/
  | both
  deriving DecidableEq

/-- A row of `pg_operator`. -/
structure FormPgOperator where
  oid : Oid
  oprname : Text
  oprkind : OprKind
  oprnamespace : Oid

/-- A row of `pg_type`. -/
structure FormPgType where
  typinput : Oid
  typoutput : Oid

/-- The broken-down time of `timestamp2tm`. -/
structure PgTm where
  tmYear : Int
  tmMon : Int
  tmMday : Int
  tmHour : Int
  tmMin : Int
  tmSec : Int

/-- The backend functions and catalogs the wrapper relies on. Operators with a
hand-assigned identifier live in `pg_catalog`. -/
structure Postgres where
  /-- `SearchSysCache1(TYPEOID, …)` -/
  pgType : Oid → FormPgType
  /-- `SearchSysCache1(OPEROID, …)` -/
  pgOperator : Oid → FormPgOperator
  pgOperator_oid : ∀ oid, (pgOperator oid).oid = oid
  pgOperator_namespace : ∀ oid, oid < firstGenbkiObjectId →
    (pgOperator oid).oprnamespace = pgCatalogNamespace
  /-- call of an output function -/
  outputFunctionCall : Oid → Datum → Text
  /-- call of an input function: function, string, type, type modifier; `none`
  when it raises an error -/
  inputFunctionCall : Oid → Text → Oid → Int → Option Datum
  /-- `contain_mutable_functions` -/
  containMutableFunctions : Node → Bool
  /-- `j2date`: year, month, day -/
  j2date : Int → Int × Int × Int
  /-- `timestamp2tm` without a time zone: fields and microseconds -/
  timestamp2tm : Int → PgTm × Int
  /-- `timestamp2tm` with a time zone: offset, fields and microseconds -/
  timestamp2tmTz : Int → Int × PgTm × Int
  /-- `parse_int`; `none` when it returns false -/
  parseInt : Text → Option Int
  /-- `defGetBoolean`; `none` when it raises an error -/
  defGetBoolean : Text → Option Bool
  /-- the word is a keyword that is not unreserved -/
  isReservedKeyword : Text → Bool
  /-- the setting `quote_all_identifiers` -/
  quoteAllIdentifiers : Bool

/-! ## Identifiers -/

/-- A character an unquoted identifier may start with. -/
def isIdentStart (c : Char) : Bool := c.isLower || c == '_'

/-- A character an unquoted identifier may continue with. -/
def isIdentChar (c : Char) : Bool := c.isLower || c.isDigit || c == '_'

/-- The identifier means itself when it is written without quotes. -/
def Postgres.identIsSafe (pg : Postgres) (ident : Text) : Bool :=
  !pg.quoteAllIdentifiers && ident.head?.any isIdentStart && ident.all isIdentChar &&
    !pg.isReservedKeyword ident

/-- `quote_identifier`. -/
def Postgres.quoteIdentifier (pg : Postgres) (ident : Text) : Text :=
  if pg.identIsSafe ident then ident else '"' :: (SqlText.escape '"' ident ++ ['"'])

theorem isWordChar_of_isIdentChar {c : Char} (hc : isIdentChar c = true) :
    SqlText.isWordChar c = true := by
  simp only [isIdentChar, Bool.or_eq_true, beq_iff_eq] at hc
  simp only [SqlText.isWordChar, Char.isAlphanum, Bool.or_eq_true, beq_iff_eq]
  rcases hc with (hl | hd) | hu
  · have halpha : c.isAlpha = true := Bool.or_eq_true_iff.mpr (.inr hl)
    exact .inl (.inl halpha)
  · exact .inl (.inr hd)
  · exact .inr hu

/-- The token a quoted identifier is written as. -/
def Postgres.identToken (pg : Postgres) (ident : Text) : SqlText.Token :=
  if pg.identIsSafe ident then .word ident else .ident ident

/-- **An identifier is one token**: whatever characters a name has, the text
`quote_identifier` writes for it is read back as a single token. -/
theorem Postgres.lexes_quoteIdentifier (pg : Postgres) (ident : Text) :
    SqlText.Lexes (pg.quoteIdentifier ident) [pg.identToken ident] := by
  rw [quoteIdentifier, identToken]
  by_cases hsafe : pg.identIsSafe ident = true
  · rw [if_pos hsafe, if_pos hsafe]
    simp only [identIsSafe, Bool.and_eq_true] at hsafe
    obtain ⟨⟨⟨-, hhead⟩, hall⟩, -⟩ := hsafe
    have hne : ident ≠ [] := by
      rintro rfl
      cases hhead
    refine SqlText.Lexes.word hne (List.all_eq_true.mpr fun c hc => ?_)
    exact isWordChar_of_isIdentChar (List.all_eq_true.mp hall c hc)
  · rw [if_neg hsafe, if_neg hsafe]
    exact SqlText.Lexes.ident ident

/-! ## A small catalog -/

/-- Some rows of `pg_operator`. -/
def smallOperators : List (Oid × String) :=
  [(96, "="), (98, "="), (531, "<>"), (664, "<"), (665, "<="), (666, ">"), (667, ">="),
    (1093, "="), (1209, "~~")]

/-- A backend with a small catalog, on which concrete statements can be evaluated.
Datums that are pointers stand for the text they point to. -/
def Postgres.small : Postgres where
  pgType := fun oid => ⟨oid, oid⟩
  pgOperator := fun oid =>
    ⟨oid, ((smallOperators.lookup oid).getD "?").toList, .both, pgCatalogNamespace⟩
  pgOperator_oid := fun _ => rfl
  pgOperator_namespace := fun _ _ => rfl
  outputFunctionCall := fun _ datum =>
    match datum with
    | .word v => if v < 0 then '-' :: Nat.toDigits 10 v.natAbs else Nat.toDigits 10 v.natAbs
    | .cstring text => text
    | .memory bytes => bytes.map fun b => Char.ofNat b.toNat
  inputFunctionCall := fun _ text _ _ => some (.cstring text)
  containMutableFunctions := fun _ => false
  j2date := fun julian => (julian / 366, 1, 1)
  timestamp2tm := fun timestamp => (⟨2000, 1, 1, 0, 0, 0⟩, timestamp)
  timestamp2tmTz := fun timestamp => (0, ⟨2000, 1, 1, 0, 0, 0⟩, timestamp)
  parseInt := fun text => if text.all Char.isDigit then (String.ofList text).toInt? else none
  defGetBoolean := fun text =>
    if text = "true".toList then some true
    else if text = "false".toList then some false
    else none
  isReservedKeyword := fun ident => ident ∈ ["null".toList, "and".toList, "where".toList]
  quoteAllIdentifiers := false

/-- What holds of all names of the small catalog, and of the name for the rest. -/
theorem Postgres.small_oprname {p : Text → Prop} (hdefault : p "?".toList)
    (h : ∀ op ∈ smallOperators, p op.2.toList) (oid : Oid) :
    p (Postgres.small.pgOperator oid).oprname := by
  change p ((smallOperators.lookup oid).getD "?").toList
  rcases hlookup : smallOperators.lookup oid with _ | name
  · exact hdefault
  · obtain ⟨before, after, hmem, -⟩ := List.lookup_eq_some_iff.mp hlookup
    have hop : (oid, name) ∈ smallOperators := by
      rw [hmem]
      exact List.mem_append_right _ (List.mem_cons_self ..)
    exact h _ hop

/-- A scan of the table with range table index 1. -/
def RelOptInfo.scanOfTable : RelOptInfo where
  reloptkind := .baserel
  relid := 1
  relids := [1]
  outerRelids := []
  baserestrictinfo := []
  targetExprs := []

/-- The small catalog with integers that are read as numbers. -/
def Postgres.smallNumbers : Postgres where
  __ := Postgres.small
  inputFunctionCall := fun typinput text _ _ =>
    if typinput = INT4OID then
      if text.all Char.isDigit then
        some (.word (text.foldl (fun value c => 10 * value + (c.toNat - 48)) 0))
      else none
    else some (.cstring text)

/-- A table with a number `n`, a dropped column and a text `c`. -/
def numberTextTable : Relation where
  relname := "t".toList
  tupdesc :=
    [⟨"n".toList, INT4OID, -1, false, false, []⟩, ⟨"d".toList, invalidOid, -1, true, false, []⟩,
      ⟨"c".toList, TEXTOID, -1, false, false, []⟩]
  options := []

/-- A table with one text column, `c`. -/
def textTable : Relation := ⟨"t".toList, [⟨"c".toList, TEXTOID, -1, false, false, []⟩], []⟩

/-- The condition `c operator 'str'`. -/
def textCondition (opno : Oid) (str : String) : Node :=
  .opExpr opno defaultCollationOid invalidOid
    [.var ⟨1, 1, TEXTOID, defaultCollationOid, 0⟩,
      .const ⟨TEXTOID, defaultCollationOid, .cstring str.toList, false⟩]

end TiberoFdw
