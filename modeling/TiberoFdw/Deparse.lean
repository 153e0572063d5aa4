import TiberoFdw.Lib.Proc
import TiberoFdw.Conditions

/-!
# Writing the remote SQL

The deparser of `deparse.c`. It appends to the buffer of a `RemoteSqlInfo` and
counts open parentheses; it can leave by `ereport(ERROR)`, by a failing
assertion, or by reading a datum as a C string that is none. The node kinds
without deparsing logic have empty functions, which write nothing and return:
the state remembers the visits.
-/

namespace TiberoFdw

/-- The node kinds whose deparser is an empty stub. -/
inductive StubKind : Type where
  | param
  | funcExpr
  | distinctExpr
  | boolExpr
  | nullTest
  | arrayExpr
  | aggref
  deriving DecidableEq

/-- `RemoteSQLInfo`, with the stubs visited so far. -/
structure RemoteSqlInfo where
  pdepth : Int
  buf : Text
  visitedStubs : List StubKind

/-- The state before anything is written. -/
def RemoteSqlInfo.start : RemoteSqlInfo := ⟨0, [], []⟩

/-- How the deparser fails. -/
inductive DeparseError : Type where
  | ereport (err : PgError)
  | assertion
  /-- `DatumGetCString` of a datum that does not point to a string -/
  | notCString
  deriving DecidableEq

/-- A deparser: it writes into the buffer, and leaves by an error or returns. -/
abbrev Deparse (α : Type) := Proc RemoteSqlInfo DeparseError α

/-- `DeparseContext`, without the buffer. -/
structure DeparseContext where
  pg : Postgres
  root : PlannerInfo
  foreignrel : RelOptInfo
  scanrel : RelOptInfo
  useFbQuery : Bool
  /-- `IsolationUsesXactSnapshot()` while the text is written -/
  isolationUsesXactSnapshot : Bool

/-- `appendStringInfoString` to the buffer. -/
def appendStringInfoString (text : Text) : Deparse Unit :=
  Proc.modify fun s => { s with buf := s.buf ++ text }

/-- `Assert`: the build that checks its assertions stops there. -/
def assertion (holds : Bool) : Deparse Unit :=
  if holds then pure () else Proc.raise .assertion

/-- `ereport(ERROR, …)` with a code and a message. -/
def ereport (sqlerrcode : SqlState) (errmsg : String) : Deparse Unit :=
  Proc.raise (.ereport ⟨sqlerrcode, errmsg⟩)

/-- A deparser without a body: nothing is written for the node. -/
def visitStub (kind : StubKind) : Deparse Unit :=
  Proc.modify fun s => { s with visitedStubs := s.visitedStubs ++ [kind] }

/-! ## Parentheses -/

/-- `REMOTE_SQL_OPEN_PARENTHESIS`, which counts what it opens. -/
def remoteSqlOpenParenthesis : Deparse Unit :=
  Proc.modify fun s => { s with buf := s.buf ++ ['('], pdepth := s.pdepth + 1 }

/-- `REMOTE_SQL_CLOSE_PARENTHESIS`; no more are closed than were opened. -/
def remoteSqlCloseParenthesis : Deparse Unit := do
  Proc.modify fun s => { s with buf := s.buf ++ [')'], pdepth := s.pdepth - 1 }
  let s ← Proc.read
  assertion (decide (0 ≤ s.pdepth))

/-- `REMOTE_SQL_CHECK_SANITY`: no parenthesis is left open. -/
def remoteSqlCheckSanity : Deparse Unit := do
  let s ← Proc.read
  Proc.when (s.pdepth ≠ 0)
    (ereport .fdwError ("remote SQL has unclosed parenthesis:\n " ++ String.ofList s.buf))

/-! ## Numbers in decimal -/

/-- The decimal digits of a number. -/
def decimal (n : Nat) : Text := Nat.toDigits 10 n

/-- Zeros before the digits, up to the width. -/
def zeroPad (width : Nat) (digits : Text) : Text :=
  List.replicate (width - digits.length) '0' ++ digits

/-- `%d`, and with a width `%0<width>d`. -/
def printfD (width : Nat) (v : Int) : Text :=
  if v < 0 then '-' :: zeroPad (width - 1) (decimal v.natAbs) else zeroPad width (decimal v.natAbs)

/-- `%+0<width>d`. -/
def printfPlusD (width : Nat) (v : Int) : Text :=
  (if v < 0 then '-' else '+') :: zeroPad (width - 1) (decimal v.natAbs)

/-! ## Columns -/

/-- `ADD_REL_QUALIFIER`. -/
def relQualifier (varno : Nat) : Text := 'r' :: (decimal varno ++ ['.'])

/-- The remote name of a column: the first `column_name` option, else the name
of the attribute. -/
def remoteColumnName (attr : FormPgAttribute) : Text :=
  match attr.options.find? (·.defname = "column_name") with
  | some def_ => def_.arg
  | none => attr.attname

/-- The text of a column reference; `none` when the catalog has no such
attribute. -/
def columnRefText (pg : Postgres) (varno : Nat) (varattno : Int) (rel : Relation)
    (qualifyCol : Bool) : Option Text :=
  let qualifier := if qualifyCol then relQualifier varno else []
  if varattno = selfItemPointerAttributeNumber then some (qualifier ++ "ROWID".toList)
  else
    (tupleDescAttr rel.tupdesc (varattno.toNat - 1)).map fun attr =>
      qualifier ++ pg.quoteIdentifier (remoteColumnName attr)

/-- `deparse_column_ref`. -/
def deparseColumnRef (pg : Postgres) (varno : Nat) (varattno : Int) (rel : Relation)
    (qualifyCol : Bool) : Deparse Unit := do
  assertion (decide (varattno = selfItemPointerAttributeNumber ∨ 0 < varattno))
  match columnRefText pg varno varattno rel qualifyCol with
  | some text => appendStringInfoString text
  | none => ereport .fdwError "cache lookup failed for attribute"

/-! ## Constants -/

/-- The loop of `deparse_string_literal` over the characters. -/
def quoteLoop : Text → Text
  | [] => []
  | c :: rest => if c = '\'' then '\'' :: c :: quoteLoop rest else c :: quoteLoop rest

/-- `deparse_string_literal`. -/
def deparseStringLiteral (str : Text) : Deparse Unit :=
  match str with
  | [] => appendStringInfoString "NULL".toList
  | _ :: _ => appendStringInfoString ('\'' :: (quoteLoop str ++ ['\'']))

/-- `deparse_string_datum`: a literal of what the output function prints. -/
def deparseStringDatum (pg : Postgres) (datum : Datum) (typoutput : Oid) : Deparse Unit :=
  deparseStringLiteral (pg.outputFunctionCall typoutput datum)

/-- `deparse_generic_datum`: the datum itself is taken for a C string. -/
def deparseGenericDatum (datum : Datum) : Deparse Unit :=
  match datum.getCString with
  | some str => deparseStringLiteral str
  | none => Proc.raise .notCString

/-- `deparse_numeric_datum`: what the output function prints, without quotes. -/
def deparseNumericDatum (pg : Postgres) (datum : Datum) (typoutput : Oid) : Deparse Unit :=
  appendStringInfoString (pg.outputFunctionCall typoutput datum)

/-- `DATEVAL_NOBEGIN`, `DATEVAL_NOEND`: the smallest and the largest `int32`. -/
def dateValNoBegin : Int := -0x80000000

/-- `DATEVAL_NOEND`, which is `infinity`. -/
def dateValNoEnd : Int := 0x7fffffff

/-- `DATE_NOT_FINITE`. -/
def dateNotFinite (date : Int) : Bool := decide (date = dateValNoBegin ∨ date = dateValNoEnd)

/-- `DT_NOBEGIN`, `DT_NOEND`: the smallest and the largest `int64`. -/
def dtNoBegin : Int := -0x8000000000000000

/-- `DT_NOEND`, which is `infinity`. -/
def dtNoEnd : Int := 0x7fffffffffffffff

/-- `TIMESTAMP_NOT_FINITE`. -/
def timestampNotFinite (timestamp : Int) : Bool :=
  decide (timestamp = dtNoBegin ∨ timestamp = dtNoEnd)

/-- `POSTGRES_EPOCH_JDATE`: the Julian day of the first of January 2000. -/
def postgresEpochJdate : Int := 2451545

/-- The message for dates and timestamps that are not finite. -/
def infiniteDateMessage : String := "infinite date value cannot be stored in Tibero"

/-- `deparse_date_datum`: a call of `TO_DATE`. The year is written as it is counted by PostgreSQL,
with 0 for the year before the first one. -/
def deparseDateDatum (pg : Postgres) (datum : Datum) : Deparse Unit := do
  let dateAdt := datum.toInt
  Proc.when (dateNotFinite dateAdt) (ereport .fdwInvalidAttributeValue infiniteDateMessage)
  let (tmYear, tmMon, tmMday) := pg.j2date (dateAdt + postgresEpochJdate)
  let dateVal := printfD 4 tmYear ++ '-' :: printfD 2 tmMon ++ '-' :: printfD 2 tmMday
  appendStringInfoString ("(TO_DATE('".toList ++ dateVal ++ "', 'SYYYY-MM-DD'))".toList)

/-- `%04d-%02d-%02d %02d:%02d:%02d.%06d`. -/
def timestampText (tm : PgTm) (fsec : Int) : Text :=
  printfD 4 tm.tmYear ++ '-' :: printfD 2 tm.tmMon ++ '-' :: printfD 2 tm.tmMday ++
    ' ' :: printfD 2 tm.tmHour ++ ':' :: printfD 2 tm.tmMin ++ ':' :: printfD 2 tm.tmSec ++
    '.' :: printfD 6 fsec

/-- `deparse_ts_datum`: a call of `TO_TIMESTAMP`. -/
def deparseTsDatum (pg : Postgres) (datum : Datum) : Deparse Unit := do
  let timestamp := datum.toInt
  Proc.when (timestampNotFinite timestamp)
    (ereport .fdwInvalidAttributeValue infiniteDateMessage)
  let (tm, fsec) := pg.timestamp2tm timestamp
  appendStringInfoString ("(TO_TIMESTAMP('".toList ++ timestampText tm fsec ++
    "', 'SYYYY-MM-DD HH24:MI:SS.FF'))".toList)

/-- `deparse_ts_tz_datum`: a call of `TO_TIMESTAMP_TZ` with the offset of the time zone, of which
the hours and the minutes are written. -/
def deparseTsTzDatum (pg : Postgres) (datum : Datum) : Deparse Unit := do
  let timestamp := datum.toInt
  Proc.when (timestampNotFinite timestamp)
    (ereport .fdwInvalidAttributeValue infiniteDateMessage)
  let (tzoffset, tm, fsec) := pg.timestamp2tmTz timestamp
  let hours := (-tzoffset).tdiv 3600
  let minutes := (if 0 < tzoffset then tzoffset.tmod 3600 else (-tzoffset).tmod 3600).tdiv 60
  appendStringInfoString ("TO_TIMESTAMP_TZ('".toList ++ timestampText tm fsec ++
    printfPlusD 3 hours ++ ':' :: printfD 2 minutes ++
    "', 'SYYYY-MM-DD HH24:MI:SS.FF TZH:TZM')".toList)

/-- The types printed bare, through their output function. -/
def numericTypes : List Oid :=
  [INT2OID, INT4OID, INT8OID, OIDOID, FLOAT4OID, FLOAT8OID, NUMERICOID]

/-- The types printed as a string literal, through their output function. -/
def stringTypes : List Oid := [UUIDOID, TEXTOID, CHAROID, BPCHAROID, VARCHAROID, NAMEOID]

/-- `deparse_datum`. -/
def deparseDatum (pg : Postgres) (datum : Datum) (dataType : Oid) : Deparse Unit :=
  let typoutput := (pg.pgType dataType).typoutput
  if dataType ∈ numericTypes then deparseNumericDatum pg datum typoutput
  else if dataType = DATEOID then deparseDateDatum pg datum
  else if dataType = TIMESTAMPOID then deparseTsDatum pg datum
  else if dataType = TIMESTAMPTZOID then deparseTsTzDatum pg datum
  else if dataType ∈ stringTypes then deparseStringDatum pg datum typoutput
  else deparseGenericDatum datum

/-- `deparse_expr_for_T_Const`: a null constant is the keyword, every other goes by its type. -/
def deparseExprForTConst (pg : Postgres) (constant : Const) : Deparse Unit :=
  if constant.constisnull then appendStringInfoString "NULL".toList
  else deparseDatum pg constant.constvalue constant.consttype

/-! ## Expressions -/

/-- `get_subquery_info_from_var` of a relation that is no join finds nothing;
of a join it is not implemented. -/
def getSubqueryInfoFromVar (foreignrel : RelOptInfo) : Deparse Unit := do
  assertion (foreignrel.isSimpleRel || foreignrel.isJoinRel)
  if !foreignrel.isJoinRel then pure () else assertion false

/-- `deparse_expr_for_T_Var`: a column of the relation that is scanned, with its qualifier when
there are more relations than one. -/
def deparseExprForTVar (context : DeparseContext) (v : Var) : Deparse Unit := do
  let relids := context.scanrel.relids
  let qualifyCol := decide (1 < relids.length)
  getSubqueryInfoFromVar context.foreignrel
  if v.varno ∈ relids ∧ v.varlevelsup = 0 then
    deparseColumnRef context.pg v.varno v.varattno (context.root.rtFetch v.varno) qualifyCol
  else assertion false

/-- The name written for an operator. -/
def operatorName (op : FormPgOperator) : Text :=
  if op.oid ∈ [OID_NAME_LIKE_OP, OID_TEXT_LIKE_OP, OID_BPCHAR_LIKE_OP] then "LIKE".toList
  else op.oprname

/-- `deparse_operator_name`. -/
def deparseOperatorName (op : FormPgOperator) : Deparse Unit := do
  assertion (decide (op.oprnamespace = pgCatalogNamespace))
  appendStringInfoString (operatorName op)

/-- `deparse_expr_for_T_OpExpr`; `args` are the deparsers of the arguments. -/
def deparseExprForTOpExpr (pg : Postgres) (opno : Oid) (args : List (Deparse Unit)) :
    Deparse Unit := do
  let op := pg.pgOperator opno
  match op.oprkind, args with
  | .left, [rhs] => do
    remoteSqlOpenParenthesis
    deparseOperatorName op
    appendStringInfoString [' ']
    rhs
    remoteSqlCloseParenthesis
  | .both, [lhs, rhs] => do
    remoteSqlOpenParenthesis
    lhs
    appendStringInfoString [' ']
    deparseOperatorName op
    appendStringInfoString [' ']
    rhs
    remoteSqlCloseParenthesis
  | _, _ => assertion false

/-- The message for a node that has no deparser. -/
def unsupportedExpressionMessage : String := "unsupported expression type for deparse"

mutual

/-- `deparse_expr`. -/
def deparseExpr (context : DeparseContext) : Node → Deparse Unit
  | .var v => deparseExprForTVar context v
  | .const c => deparseExprForTConst context.pg c
  | .param _ => visitStub .param
  | .funcExpr .. => visitStub .funcExpr
  | .opExpr opno _ _ args => deparseExprForTOpExpr context.pg opno (deparseExprs context args)
  | .distinctExpr .. => visitStub .distinctExpr
  | .boolExpr _ => visitStub .boolExpr
  | .nullTest _ => visitStub .nullTest
  | .arrayExpr .. => visitStub .arrayExpr
  | .aggref .. => visitStub .aggref
  | .list _ => ereport .fdwError unsupportedExpressionMessage
  | .other .. => ereport .fdwError unsupportedExpressionMessage

/-- The deparsers of the arguments of an operator. -/
def deparseExprs (context : DeparseContext) : List Node → List (Deparse Unit)
  | [] => []
  | arg :: rest => deparseExpr context arg :: deparseExprs context rest

end

/-- The loop of `append_conditions`. -/
def appendConditionsLoop (context : DeparseContext) : List Node → Bool → Deparse Unit
  | [], _ => pure ()
  | expr :: rest, isFirst => do
    Proc.when (!isFirst) (appendStringInfoString " AND ".toList)
    remoteSqlOpenParenthesis
    deparseExpr context expr
    remoteSqlCloseParenthesis
    appendConditionsLoop context rest false

/-- `append_conditions`. -/
def appendConditions (context : DeparseContext) (exprs : List Node) : Deparse Unit :=
  appendConditionsLoop context exprs true

/-- `deparse_where_expr`. -/
def deparseWhereExpr (context : DeparseContext) (quals : List Node) : Deparse Unit := do
  appendStringInfoString " WHERE ".toList
  appendConditions context quals

/-! ## SELECT and FROM -/

/-- What comes before the next item of a target list. -/
def deparseTargetSeparator (first isReturning : Bool) : Deparse Unit :=
  if !first then appendStringInfoString ", ".toList
  else Proc.when isReturning (appendStringInfoString " RETURNING ".toList)

/-- The loop of `deparse_target_list` over the attributes from number `i` on. -/
def deparseTargetListLoop (pg : Postgres) (rtindex : Nat) (rel : Relation) (isReturning : Bool)
    (attrsUsed : Bitmapset) (qualifyCol : Bool) :
    List FormPgAttribute → Nat → Bool → List Int → Deparse (Bool × List Int)
  | [], _, first, retrievedAttrs => pure (first, retrievedAttrs)
  | attr :: rest, i, first, retrievedAttrs => do
    let haveWholerow := bmsIsMember (0 - firstLowInvalidHeapAttributeNumber) attrsUsed
    if attr.attisdropped then
      deparseTargetListLoop pg rtindex rel isReturning attrsUsed qualifyCol rest (i + 1) first
        retrievedAttrs
    else if haveWholerow || bmsIsMember (i - firstLowInvalidHeapAttributeNumber) attrsUsed then do
      deparseTargetSeparator first isReturning
      deparseColumnRef pg rtindex i rel qualifyCol
      deparseTargetListLoop pg rtindex rel isReturning attrsUsed qualifyCol rest (i + 1) false
        (retrievedAttrs ++ [(i : Int)])
    else
      deparseTargetListLoop pg rtindex rel isReturning attrsUsed qualifyCol rest (i + 1) first
        retrievedAttrs

/-- `deparse_target_list`; returns `retrieved_attrs`. -/
def deparseTargetList (pg : Postgres) (rtindex : Nat) (rel : Relation) (isReturning : Bool)
    (attrsUsed : Bitmapset) (qualifyCol : Bool) : Deparse (List Int) := do
  let (first, retrievedAttrs) ←
    deparseTargetListLoop pg rtindex rel isReturning attrsUsed qualifyCol rel.tupdesc 1 true []
  if bmsIsMember (selfItemPointerAttributeNumber - firstLowInvalidHeapAttributeNumber)
      attrsUsed then do
    deparseTargetSeparator first isReturning
    Proc.when qualifyCol (appendStringInfoString (relQualifier rtindex))
    appendStringInfoString "ctid".toList
    pure (retrievedAttrs ++ [selfItemPointerAttributeNumber])
  else do
    Proc.when (first && !isReturning) (appendStringInfoString "NULL".toList)
    pure retrievedAttrs

/-- The last option of that name. -/
def lastOption (name : String) (options : List DefElem) : Option Text :=
  options.foldl (fun found def_ => if def_.defname = name then some def_.arg else found) none

/-- `deparse_relation`. -/
def deparseRelation (context : DeparseContext) (rel : Relation) (useFbQuery : Bool) :
    Deparse Unit :=
  let flashbackClause :=
    if useFbQuery && !context.isolationUsesXactSnapshot then " as of tsn ?".toList else []
  let relName := (lastOption "table_name" rel.options).getD rel.relname
  match lastOption "owner_name" rel.options with
  | none => appendStringInfoString (context.pg.quoteIdentifier relName ++ flashbackClause)
  | some ownerName =>
    appendStringInfoString (context.pg.quoteIdentifier ownerName ++ '.' ::
      context.pg.quoteIdentifier relName ++ flashbackClause)

/-- `deparse_from_expr`, with `deparse_from_expr_for_rel`. -/
def deparseFromExpr (context : DeparseContext) (quals : List Node) : Deparse Unit := do
  let scanrel := context.scanrel
  appendStringInfoString " FROM ".toList
  deparseRelation context (context.root.rtFetch scanrel.relid) context.useFbQuery
  Proc.when (1 < scanrel.relids.length)
    (appendStringInfoString (' ' :: 'r' :: decimal scanrel.relid))
  Proc.when (!quals.isEmpty) (deparseWhereExpr context quals)

/-- The context that `deparse_select_stmt_for_rel` sets up. -/
def selectContext (pg : Postgres) (root : PlannerInfo) (rel : RelOptInfo)
    (useFbQuery isolationUsesXactSnapshot : Bool) : DeparseContext where
  pg := pg
  root := root
  foreignrel := rel
  scanrel := rel
  useFbQuery := useFbQuery
  isolationUsesXactSnapshot := isolationUsesXactSnapshot

/-- `deparse_select_stmt_for_rel`; returns `retrieved_attrs`. -/
def deparseSelectStmtForRel (context : DeparseContext) (attrsUsed : Bitmapset)
    (remoteConds : List Node) : Deparse (List Int) := do
  assertion context.foreignrel.isSimpleRel
  appendStringInfoString "SELECT ".toList
  let retrievedAttrs ← deparseTargetList context.pg context.foreignrel.relid
    (context.root.rtFetch context.foreignrel.relid) false attrsUsed false
  deparseFromExpr context remoteConds
  remoteSqlCheckSanity
  pure retrievedAttrs

/-! ## INSERT -/

/-- The column list of `deparse_insert_sql`. -/
def deparseInsertColumns (pg : Postgres) (rtindex : Nat) (rel : Relation) :
    List Int → Bool → Deparse Unit
  | [], _ => pure ()
  | attnum :: rest, first => do
    Proc.when (!first) (appendStringInfoString ", ".toList)
    deparseColumnRef pg rtindex attnum rel false
    deparseInsertColumns pg rtindex rel rest false

/-- The parameter markers of `deparse_insert_sql`. -/
def deparseInsertMarkers : List Int → Bool → Deparse Unit
  | [], _ => pure ()
  | _ :: rest, first => do
    Proc.when (!first) (appendStringInfoString ", ".toList)
    appendStringInfoString "?".toList
    deparseInsertMarkers rest false

/-- `deparse_insert_sql`. The assertion against an empty target list is compiled
out of a production build. -/
def deparseInsertSql (context : DeparseContext) (rtindex : Nat) (rel : Relation)
    (targetAttrs : List Int) : Deparse Unit := do
  appendStringInfoString "INSERT INTO ".toList
  deparseRelation context rel false
  Proc.when (!targetAttrs.isEmpty) do
    appendStringInfoString ['(']
    deparseInsertColumns context.pg rtindex rel targetAttrs true
    appendStringInfoString ") VALUES (".toList
    deparseInsertMarkers targetAttrs true
    appendStringInfoString [')']

end TiberoFdw
