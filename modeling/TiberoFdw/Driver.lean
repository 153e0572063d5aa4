import TiberoFdw.Lib.Proc
import TiberoFdw.Postgres

/-!
# The driver and its wrappers

The calls of the Tibero CLI driver, the world they are issued in, and the
`TbSQL…` wrappers of `connection.c`. Three layers:

* `World` — the module's global state, the statements of the driver, and the
  trace of the calls issued so far, each with its return code;
* `issue` — one raw driver call: it is recorded, and has its effect on the
  driver's statements when it succeeds;
* the wrappers, which check the return code and report a failure through
  `TbFdwReportError`: that macro disconnects first and raises then.

Everything the code does not decide comes from an `Environment`: return codes,
results, and when invalidations are delivered. A call is answered by its position
in the trace, and a handle that is allocated is named after that position, so
that no handle is allocated twice.
-/

namespace TiberoFdw

/-! ## Driver calls -/

/-- What a driver call returns. -/
abbrev SqlReturn := Int

/-- The call has succeeded. -/
def SQL_SUCCESS : SqlReturn := 0

/-- The call has succeeded, and there are diagnostics. -/
def SQL_SUCCESS_WITH_INFO : SqlReturn := 1

/-- A fetch has found no more rows. -/
def SQL_NO_DATA : SqlReturn := 100

/-- `rc == SQL_SUCCESS || rc == SQL_SUCCESS_WITH_INFO`. -/
def sqlSucceeded (rc : SqlReturn) : Bool := rc == SQL_SUCCESS || rc == SQL_SUCCESS_WITH_INFO

/-- A handle of the driver. -/
abbrev Handle := Nat

/-- The handle that stands for none. -/
def SQL_NULL_HANDLE : Handle := 0

/-- What a handle stands for: an environment, a connection or a statement. -/
inductive HandleType : Type where
  | env
  | dbc
  | stmt
  deriving DecidableEq

/-- The `completion_type` of `SQLEndTran`. -/
inductive CompletionType : Type where
  | commit
  | rollback
  deriving DecidableEq

/-- The `option` of `SQLFreeStmt`. -/
inductive FreeOption : Type where
  | close
  | drop
  deriving DecidableEq

/-- The key of a cache entry: the OID of the user mapping. -/
abbrev ConnCacheKey := Oid

/-- What a parameter is bound to: a string of its own, or the `tsn` buffer of a
cache entry, which is read when the statement is executed. -/
inductive ParamSource : Type where
  | text (value : Option Text)
  | tsn (conn : ConnCacheKey)
  deriving DecidableEq

/-- A remote row; NULL is `none`. -/
abbrev Row := List (Option Text)

/-- The driver calls, with the arguments that decide what they do. The output
handle of an allocation is an argument here. -/
inductive SqlCall : Type where
  | allocHandle (handleType : HandleType) (inputHandle outputHandle : Handle)
  | setEnvAttr (henv : Handle) (attr value : Nat)
  | setConnectAttr (hdbc : Handle) (attr value : Nat)
  | driverConnect (hdbc : Handle) (inConnStr : Text)
  | disconnect (hdbc : Handle)
  | freeHandle (handleType : HandleType) (handle : Handle)
  | freeStmt (hstmt : Handle) (option : FreeOption)
  | execDirect (hstmt : Handle) (sql : Text)
  | prepare (hstmt : Handle) (sql : Text)
  /-- with the values of the parameters at the time of the call -/
  | execute (hstmt : Handle) (params : List (Nat × Option Text))
  | fetch (hstmt : Handle)
  | bindCol (hstmt : Handle) (colNo : Nat)
  | bindParameter (hstmt : Handle) (paramNo : Nat) (paramType : Int) (source : ParamSource)
  | setStmtAttr (hstmt : Handle) (attr value : Nat)
  | numResultCols (hstmt : Handle)
  | describeCol (hstmt : Handle) (colNo : Nat)
  | endTran (hdbc : Handle) (completionType : CompletionType)
  deriving DecidableEq

/-- The attribute of an environment that says which version of ODBC is spoken. -/
def SQL_ATTR_ODBC_VERSION : Nat := 200

/-- ODBC 3, its value. -/
def SQL_OV_ODBC3 : Nat := 3

/-- The attribute of a connection that ends a transaction after each statement. -/
def SQL_ATTR_AUTOCOMMIT : Nat := 102

/-- Its value for transactions that last until `SQLEndTran`. -/
def SQL_AUTOCOMMIT_OFF : Nat := 0

/-- The attribute of a statement for the address that a fetch stores its number of rows at. -/
def SQL_ATTR_ROWS_FETCHED_PTR : Nat := 26

/-- The attribute of a statement for the number of rows of a fetch. -/
def SQL_ATTR_ROW_ARRAY_SIZE : Nat := 27

/-- A call that was issued, with its return code. -/
structure Issued where
  call : SqlCall
  rc : SqlReturn
  deriving DecidableEq

/-! ## The world -/

/-- `ConnCacheEntry`. -/
structure ConnCacheEntry where
  henv : Handle
  hdbc : Handle
  connected : Bool
  beginRemoteXact : Bool
  invalidated : Bool
  keepConnections : Bool
  serverid : Oid
  serverHashvalue : Nat
  mappingHashvalue : Nat
  tsn : Text
  stmtTs : Int

/-- `TbStatement`; the pointer to the cache entry is the entry's key. -/
structure TbStatement where
  hstmt : Handle
  tsn : Text
  conn : ConnCacheKey
  resColCnt : Nat
  queryExecuted : Bool

/-- The zeroed `TbStatement` of `palloc0`. -/
def TbStatement.zeroed : TbStatement := ⟨SQL_NULL_HANDLE, [], 0, 0, false⟩

/-- A statement on the driver's side. -/
structure DriverStmt where
  /-- the text of the last `SQLPrepare` -/
  prepared : Text
  /-- the bindings, the last one first -/
  params : List (Nat × ParamSource)
  rowArraySize : Nat
  /-- the rows of the result after the cursor -/
  pending : List Row

/-- A fresh statement: one row is fetched at a time. -/
def DriverStmt.fresh : DriverStmt := ⟨[], [], 1, []⟩

/-- The catalog an invalidation is about. -/
inductive CacheId : Type where
  | foreignServerOid
  | userMappingOid
  deriving DecidableEq

/-- The state of the module and of the driver. -/
structure World where
  /-- `IsolationUsesXactSnapshot()` in the running transaction -/
  isolationUsesXactSnapshot : Bool
  /-- `GetCurrentStatementStartTimestamp()` -/
  statementStart : Int
  /-- `in_error_recursion_trouble()` -/
  inErrorRecursionTrouble : Bool
  /-- the keys of the cache, in the order of `hash_seq_search` -/
  keys : List ConnCacheKey
  /-- the cache entries; for a key that is not in the cache, the memory that an
  entry for it would start with -/
  conn : ConnCacheKey → ConnCacheEntry
  xactGotConnection : Bool
  useSleepOnSig : Bool
  /-- the number of `GetForeignServer` lookups so far -/
  lookups : Nat
  stmts : Handle → DriverStmt
  trace : List Issued

/-- What the code does not decide. -/
structure Environment where
  /-- the return code of the `n`-th driver call -/
  rc : Nat → SqlReturn
  /-- the result of the statement that the `n`-th driver call executes -/
  result : Nat → List Row
  /-- type and size of the result columns of a query -/
  describe : Text → List (Int × Nat)
  /-- what the `n`-th `GetForeignServer` finds -/
  foreignServer : Nat → Oid → ForeignServer
  /-- the invalidations that are delivered inside the `n`-th `GetForeignServer` -/
  deliveries : Nat → List (CacheId × Nat)
  /-- `GetSysCacheHashValue1` of a server and of a user mapping -/
  serverHash : Oid → Nat
  mappingHash : Oid → Nat
  /-- where `HASH_ENTER` puts a new entry among the ones that are there -/
  hashSlot : ConnCacheKey → List ConnCacheKey → Nat

/-- Every driver call succeeds. -/
def Environment.AllOk (env : Environment) : Prop := ∀ n, sqlSucceeded (env.rc n) = true

/-- A backend at its start; a new cache entry starts with zeroed memory here. -/
def World.start : World where
  isolationUsesXactSnapshot := false
  statementStart := 0
  inErrorRecursionTrouble := false
  keys := []
  conn _ := ⟨SQL_NULL_HANDLE, SQL_NULL_HANDLE, false, false, false, false, 0, 0, 0, [], 0⟩
  xactGotConnection := false
  useSleepOnSig := false
  lookups := 0
  stmts _ := DriverStmt.fresh
  trace := []

/-- A driver that succeeds and finds no rows, and servers without options. -/
def Environment.succeeding : Environment where
  rc _ := SQL_SUCCESS
  result _ := []
  describe _ := []
  foreignServer _ serverid := ⟨serverid, []⟩
  deliveries _ := []
  serverHash serverid := serverid
  mappingHash umid := umid
  hashSlot _ _ := 0

/-- A user mapping of a server. -/
def UserMapping.sample : UserMapping := ⟨1, 7, []⟩

theorem Environment.succeeding_allOk : Environment.succeeding.AllOk := fun _ => rfl

/-- A piece of the module: it runs in a world, and leaves by an `ereport` or returns. -/
abbrev Fdw (α : Type) := Proc World PgError α

/-- Change one cache entry. -/
def World.setConn (w : World) (key : ConnCacheKey) (f : ConnCacheEntry → ConnCacheEntry) : World :=
  { w with conn := fun k => if k = key then f (w.conn k) else w.conn k }

/-- Change one statement of the driver. -/
def setStmt (stmts : Handle → DriverStmt) (hstmt : Handle) (f : DriverStmt → DriverStmt) :
    Handle → DriverStmt :=
  fun h => if h = hstmt then f (stmts h) else stmts h

/-- Change one cache entry of the world. -/
def modifyConn (key : ConnCacheKey) (f : ConnCacheEntry → ConnCacheEntry) : Fdw Unit :=
  Proc.modify fun w => w.setConn key f

/-- `set_sleep_on_sig_on`. -/
def setSleepOnSigOn : Fdw Unit := Proc.modify fun w => { w with useSleepOnSig := true }

/-- `set_sleep_on_sig_off`. -/
def setSleepOnSigOff : Fdw Unit := Proc.modify fun w => { w with useSleepOnSig := false }

/-! ## Raw calls -/

/-- What a successful call, the `n`-th, does to the statements of the driver. -/
def SqlCall.effect (env : Environment) (n : Nat) (stmts : Handle → DriverStmt) :
    SqlCall → Handle → DriverStmt
  | .allocHandle .stmt _ hstmt => setStmt stmts hstmt fun _ => DriverStmt.fresh
  | .execDirect hstmt _ => setStmt stmts hstmt fun s => { s with pending := env.result n }
  | .prepare hstmt sql => setStmt stmts hstmt fun s => { s with prepared := sql }
  | .execute hstmt _ => setStmt stmts hstmt fun s => { s with pending := env.result n }
  | .fetch hstmt => setStmt stmts hstmt fun s => { s with pending := s.pending.drop s.rowArraySize }
  | .bindParameter hstmt paramNo _ source =>
    setStmt stmts hstmt fun s => { s with params := (paramNo, source) :: s.params }
  | .setStmtAttr hstmt attr value =>
    if attr = SQL_ATTR_ROW_ARRAY_SIZE then
      setStmt stmts hstmt fun s => { s with rowArraySize := value }
    else stmts
  | .freeStmt hstmt .close => setStmt stmts hstmt fun s => { s with pending := [] }
  | _ => stmts

/-- The world after a call with that return code. -/
def World.issued (w : World) (env : Environment) (call : SqlCall) (rc : SqlReturn) : World :=
  { w with
    stmts := if sqlSucceeded rc then call.effect env w.trace.length w.stmts else w.stmts
    trace := w.trace ++ [⟨call, rc⟩] }

/-- The return code of the next call. -/
def World.nextRc (w : World) (env : Environment) : SqlReturn := env.rc w.trace.length

/-- Issue a driver call. -/
def issue (env : Environment) (call : SqlCall) : Fdw SqlReturn := fun w =>
  .ok (w.nextRc env) (w.issued env call (w.nextRc env))

/-- `SQLAllocHandle`; on failure the output handle is null. -/
def sqlAllocHandle (env : Environment) (handleType : HandleType) (inputHandle : Handle) :
    Fdw (SqlReturn × Handle) := do
  let w ← Proc.read
  let outputHandle := if sqlSucceeded (w.nextRc env) then w.trace.length + 1 else SQL_NULL_HANDLE
  let rc ← issue env (.allocHandle handleType inputHandle outputHandle)
  pure (rc, outputHandle)

/-- `SQLFetch`: the next rows of the result, at most `SQL_ATTR_ROW_ARRAY_SIZE`;
`SQL_NO_DATA` when a fetch that would succeed finds none. -/
def sqlFetch (env : Environment) (hstmt : Handle) : Fdw (SqlReturn × List Row) := fun w =>
  let stmt := w.stmts hstmt
  let batch := stmt.pending.take stmt.rowArraySize
  if !sqlSucceeded (w.nextRc env) then
    .ok (w.nextRc env, []) (w.issued env (.fetch hstmt) (w.nextRc env))
  else if batch.isEmpty then .ok (SQL_NO_DATA, []) (w.issued env (.fetch hstmt) SQL_NO_DATA)
  else .ok (w.nextRc env, batch) (w.issued env (.fetch hstmt) (w.nextRc env))

/-- The value a parameter has now. -/
def ParamSource.value (w : World) : ParamSource → Option Text
  | .text value => value
  | .tsn conn => some (w.conn conn).tsn

/-- The values of the parameters of a statement now. -/
def World.paramValues (w : World) (hstmt : Handle) : List (Nat × Option Text) :=
  (w.stmts hstmt).params.map fun (paramNo, source) => (paramNo, source.value w)

/-- `SQLExecute`: the bound buffers are read now. -/
def sqlExecute (env : Environment) (hstmt : Handle) : Fdw SqlReturn := do
  let w ← Proc.read
  issue env (.execute hstmt (w.paramValues hstmt))

/-! ## Reporting -/

/-- The text of a return code in a message. -/
def returnCodeMessage (rc : SqlReturn) : String := "return code (" ++ toString rc ++ ")"

/-- The cleanup of `TbFdwReportError`: a connected entry is disconnected by raw
calls, whose return codes are ignored. -/
def dropConnection (env : Environment) (key : ConnCacheKey) : Fdw Unit := do
  let w ← Proc.read
  let conn := w.conn key
  Proc.when conn.connected do
    modifyConn key fun c => { c with beginRemoteXact := false, connected := false }
    let _ ← issue env (.disconnect conn.hdbc)
    let _ ← issue env (.freeHandle .dbc conn.hdbc)
    let _ ← issue env (.freeHandle .env conn.henv)

/-- `TbFdwReportError`. -/
def tbFdwReportError (env : Environment) (key : ConnCacheKey) (sqlerrcode : SqlState)
    (msg : String) : Fdw Unit := do
  dropConnection env key
  Proc.raise ⟨sqlerrcode, msg⟩

/-- What every wrapper does with a return code. -/
def checkReturn (env : Environment) (key : ConnCacheKey) (sqlerrcode : SqlState) (rc : SqlReturn) :
    Fdw Unit :=
  if sqlSucceeded rc then pure () else tbFdwReportError env key sqlerrcode (returnCodeMessage rc)

/-! ## Wrappers -/

/-- A wrapper that issues one call and checks its return code. -/
def tbCall (env : Environment) (key : ConnCacheKey) (call : SqlCall) : Fdw Unit := do
  let rc ← issue env call
  checkReturn env key .fdwError rc

/-- `TbSQLFetch`: the rows that were delivered, and whether the end was met. -/
def tbSqlFetch (env : Environment) (tbStmt : TbStatement) : Fdw (List Row × Bool) := do
  let (rc, batch) ← sqlFetch env tbStmt.hstmt
  if rc = SQL_NO_DATA then pure (batch, true)
  else do
    checkReturn env tbStmt.conn .fdwError rc
    pure (batch, false)

/-- `TbSQLBindCol`; the buffers are those of the scan. -/
def tbSqlBindCol (env : Environment) (tbStmt : TbStatement) (colNo : Nat) : Fdw Unit :=
  tbCall env tbStmt.conn (.bindCol tbStmt.hstmt colNo)

/-- `TbSQLEndTran`: only a transaction whose end has succeeded is taken for ended. -/
def tbSqlEndTran (env : Environment) (key : ConnCacheKey) (completionType : CompletionType) :
    Fdw Unit := do
  let w ← Proc.read
  tbCall env key (.endTran (w.conn key).hdbc completionType)
  modifyConn key fun c => { c with beginRemoteXact := false }

/-- `TbSQLSetStmtAttr`, with a number for the value. -/
def tbSqlSetStmtAttr (env : Environment) (tbStmt : TbStatement) (attr value : Nat) :
    Fdw Unit :=
  tbCall env tbStmt.conn (.setStmtAttr tbStmt.hstmt attr value)

/-- `TbSQLExecDirect`. -/
def tbSqlExecDirect (env : Environment) (tbStmt : TbStatement) (sql : Text) : Fdw Unit :=
  tbCall env tbStmt.conn (.execDirect tbStmt.hstmt sql)

/-- `TbSQLAllocHandle`; `store` puts the output handle where the caller wants it,
before the return code is checked. -/
def tbSqlAllocHandle (env : Environment) (key : ConnCacheKey) (handleType : HandleType)
    (inputHandle : Handle) (store : Handle → Fdw Unit) : Fdw Handle := do
  let (rc, handle) ← sqlAllocHandle env handleType inputHandle
  store handle
  checkReturn env key .fdwError rc
  pure handle

/-- `TbSQLFreeStmt`, which closes the result or drops the statement. -/
def tbSqlFreeStmt (env : Environment) (tbStmt : TbStatement) (option : FreeOption) : Fdw Unit :=
  tbCall env tbStmt.conn (.freeStmt tbStmt.hstmt option)

/-- `TbSQLExecute`: on success the statement is marked as executed. -/
def tbSqlExecute (env : Environment) (tbStmt : TbStatement) : Fdw TbStatement := do
  let rc ← sqlExecute env tbStmt.hstmt
  checkReturn env tbStmt.conn .fdwError rc
  pure { tbStmt with queryExecuted := true }

/-- What the callbacks do before they use a statement: execute it, unless it is
marked as executed. -/
def executeUnlessExecuted (env : Environment) (tbStmt : TbStatement) : Fdw TbStatement :=
  if tbStmt.queryExecuted then pure tbStmt else tbSqlExecute env tbStmt

/-- `TbSQLPrepare`. -/
def tbSqlPrepare (env : Environment) (tbStmt : TbStatement) (sql : Text) : Fdw Unit :=
  tbCall env tbStmt.conn (.prepare tbStmt.hstmt sql)

/-- `TbSQLDriverConnect`, the one wrapper with another error code. -/
def tbSqlDriverConnect (env : Environment) (key : ConnCacheKey) (inConnStr : Text) : Fdw Unit := do
  let w ← Proc.read
  let rc ← issue env (.driverConnect (w.conn key).hdbc inConnStr)
  checkReturn env key .fdwUnableToEstablishConnection rc

/-- `TbSQLDisconnect` of the connection of an entry. -/
def tbSqlDisconnect (env : Environment) (key : ConnCacheKey) : Fdw Unit := do
  let w ← Proc.read
  tbCall env key (.disconnect (w.conn key).hdbc)

/-- `TbSQLFreeHandle`. -/
def tbSqlFreeHandle (env : Environment) (key : ConnCacheKey) (handleType : HandleType)
    (handle : Handle) : Fdw Unit :=
  tbCall env key (.freeHandle handleType handle)

/-- `TbSQLSetConnectAttr` of the connection of an entry. -/
def tbSqlSetConnectAttr (env : Environment) (key : ConnCacheKey) (attr value : Nat) :
    Fdw Unit := do
  let w ← Proc.read
  tbCall env key (.setConnectAttr (w.conn key).hdbc attr value)

/-- `TbSQLSetEnvAttr` of the environment of an entry. -/
def tbSqlSetEnvAttr (env : Environment) (key : ConnCacheKey) (attr value : Nat) :
    Fdw Unit := do
  let w ← Proc.read
  tbCall env key (.setEnvAttr (w.conn key).henv attr value)

/-- `TbSQLNumResultCols`. -/
def tbSqlNumResultCols (env : Environment) (tbStmt : TbStatement) : Fdw Nat := do
  let w ← Proc.read
  tbCall env tbStmt.conn (.numResultCols tbStmt.hstmt)
  pure (env.describe (w.stmts tbStmt.hstmt).prepared).length

/-! ## Types -/

/-- The characters of a number, at most. -/
def NUMBER_MAX_STRING : Nat := 256

/-- The size of a CHAR whose size is not reported. -/
def TB_CHAR_SIZE_MAX : Nat := 2000

/-- The size of a VARCHAR2 whose size is not reported. -/
def TB_VARCHAR2_SIZE_MAX : Nat := 65535 - 3

/-- The size of a RAW whose size is not reported. -/
def TB_RAW_SIZE_MAX : Nat := 2000

/-- The characters of a date or a timestamp, at most. -/
def NLS_DATETIME_FORMAT_SIZE : Nat := 80

/-- The characters of a time, at most. -/
def TB_TIME_MAX_STR_SIZE : Nat := 32

/-- The characters of an interval from years to months, at most. -/
def TB_ITV_YTM_MAX_STR_SIZE : Nat := 15

/-- The characters of an interval from days to seconds, at most. -/
def TB_ITV_DTS_MAX_STR_SIZE : Nat := 31

/-- The characters of a row identifier: of its segment, its file, its block and its row. -/
def EROWID_SIZE : Nat := 6 + 3 + 6 + 3

/-- The driver's type of CHAR columns. -/
def SQL_CHAR : Int := 1

/-- The driver's type of numbers with a scale. -/
def SQL_NUMERIC : Int := 2

/-- The driver's type of decimal numbers. -/
def SQL_DECIMAL : Int := 3

/-- The driver's type of integers of 32 bits. -/
def SQL_INTEGER : Int := 4

/-- The driver's type of integers of 16 bits. -/
def SQL_SMALLINT : Int := 5

/-- The driver's type of FLOAT columns. -/
def SQL_FLOAT : Int := 6

/-- The driver's type of floating-point numbers of 32 bits. -/
def SQL_REAL : Int := 7

/-- The driver's type of floating-point numbers of 64 bits. -/
def SQL_DOUBLE : Int := 8

/-- The driver's type of dates, before ODBC 3. -/
def SQL_DATE : Int := 9

/-- The driver's type of times, before ODBC 3. -/
def SQL_TIME : Int := 10

/-- The driver's type of timestamps, before ODBC 3. -/
def SQL_TIMESTAMP : Int := 11

/-- The driver's type of VARCHAR columns. -/
def SQL_VARCHAR : Int := 12

/-- The driver's type of truth values. -/
def SQL_BOOLEAN : Int := 16

/-- The driver's type of large objects of bytes. -/
def SQL_BLOB : Int := 30

/-- The driver's type of cursors. -/
def SQL_CSR : Int := 52

/-- The driver's type of BINARY_FLOAT columns. -/
def SQL_BFLOAT : Int := 56

/-- The driver's type of BINARY_DOUBLE columns. -/
def SQL_BDOUBLE : Int := 57

/-- The driver's type of dates. -/
def SQL_TYPE_DATE : Int := 91

/-- The driver's type of times. -/
def SQL_TYPE_TIME : Int := 92

/-- The driver's type of timestamps. -/
def SQL_TYPE_TIMESTAMP : Int := 93

/-- The driver's type of LONG columns. -/
def SQL_LONGVARCHAR : Int := -1

/-- The driver's type of bytes of a fixed number. -/
def SQL_BINARY : Int := -2

/-- The driver's type of bytes, as in RAW columns. -/
def SQL_VARBINARY : Int := -3

/-- The driver's type of integers of 64 bits. -/
def SQL_BIGINT : Int := -5

/-- The driver's type of integers of 8 bits. -/
def SQL_TINYINT : Int := -6

/-- The driver's type of single bits. -/
def SQL_BIT : Int := -7

/-- The driver's type of NCHAR columns. -/
def SQL_WCHAR : Int := -8

/-- The driver's type of NVARCHAR columns. -/
def SQL_WVARCHAR : Int := -9

/-- The driver's type of intervals from years to months. -/
def SQL_INTERVAL_YEAR_TO_MONTH : Int := 107

/-- The driver's type of intervals from days to seconds. -/
def SQL_INTERVAL_DAY_TO_SECOND : Int := 110

/-- The sizes in `get_tb_type_max_str_size`, without the terminator; `none` for
an unknown type. -/
def maxStrSize (type : Int) (colSize : Nat) : Option Nat :=
  if type ∈ [SQL_NUMERIC, SQL_DECIMAL, SQL_FLOAT, SQL_REAL, SQL_DOUBLE, SQL_INTEGER, SQL_SMALLINT,
      SQL_BIGINT, SQL_TINYINT, SQL_BIT, SQL_BOOLEAN, SQL_BFLOAT, SQL_BDOUBLE] then
    some NUMBER_MAX_STRING
  else if type ∈ [SQL_CHAR, SQL_WCHAR] then
    some (if 0 < colSize then colSize else TB_CHAR_SIZE_MAX)
  else if type ∈ [SQL_VARCHAR, SQL_WVARCHAR] then
    some (if 0 < colSize then colSize else TB_VARCHAR2_SIZE_MAX)
  else if type = SQL_VARBINARY then
    some ((if 0 < colSize then colSize else TB_RAW_SIZE_MAX) * 2)
  else if type ∈ [SQL_TYPE_DATE, SQL_DATE] then some NLS_DATETIME_FORMAT_SIZE
  else if type ∈ [SQL_TYPE_TIME, SQL_TIME] then some TB_TIME_MAX_STR_SIZE
  else if type ∈ [SQL_TYPE_TIMESTAMP, SQL_TIMESTAMP] then some NLS_DATETIME_FORMAT_SIZE
  else if type = SQL_INTERVAL_YEAR_TO_MONTH then some TB_ITV_YTM_MAX_STR_SIZE
  else if type = SQL_INTERVAL_DAY_TO_SECOND then some TB_ITV_DTS_MAX_STR_SIZE
  else if type = SQL_BINARY then some EROWID_SIZE
  else if type = SQL_CSR then some NUMBER_MAX_STRING
  else none

/-- `get_tb_type_max_str_size`. -/
def getTbTypeMaxStrSize (env : Environment) (key : ConnCacheKey) (type : Int) (colSize : Nat) :
    Fdw Nat :=
  match maxStrSize type colSize with
  | some res => pure (res + 1)
  | none => do
    tbFdwReportError env key .fdwError ("tbcli datatype error (" ++ toString type ++ ")")
    pure 0

/-- The cases of `get_tb_type_from_pg_type`. -/
def tbTypeOf (type : Oid) : Option Int :=
  if type = INT2OID then some SQL_SMALLINT
  else if type = INT4OID then some SQL_INTEGER
  else if type = INT8OID then some SQL_INTEGER
  else if type = FLOAT4OID then some SQL_FLOAT
  else if type = FLOAT8OID then some SQL_DOUBLE
  else if type = NUMERICOID then some SQL_NUMERIC
  else if type = BOOLOID then some SQL_BOOLEAN
  else if type ∈ [BPCHAROID, VARCHAROID, TEXTOID, JSONOID, ANYENUMOID] then some SQL_VARCHAR
  else if type = NAMEOID then some SQL_VARCHAR
  else if type = DATEOID then some SQL_DATE
  else if type ∈ [TIMEOID, TIMESTAMPOID, TIMESTAMPTZOID] then some SQL_TIMESTAMP
  else if type = BITOID then some SQL_LONGVARCHAR
  else if type = BYTEAOID then some SQL_BLOB
  else none

/-- `get_tb_type_from_pg_type`; its error does not disconnect. -/
def getTbTypeFromPgType (type : Oid) : Fdw Int :=
  match tbTypeOf type with
  | some t => pure t
  | none => Proc.raise ⟨.fdwError, "cannot convert pgtype(" ++ toString type ++ ")"⟩

/-- `TbSQLBindParameter`. -/
def tbSqlBindParameter (env : Environment) (tbStmt : TbStatement) (paramNo : Nat)
    (pgParamType : Oid) (source : ParamSource) : Fdw Unit := do
  let paramType ← getTbTypeFromPgType pgParamType
  tbCall env tbStmt.conn (.bindParameter tbStmt.hstmt paramNo paramType source)

/-- `TbSQLDescribeCol`: the type of a result column and the size of its buffer. -/
def tbSqlDescribeCol (env : Environment) (tbStmt : TbStatement) (colNo : Nat) :
    Fdw (Int × Nat) := do
  let w ← Proc.read
  tbCall env tbStmt.conn (.describeCol tbStmt.hstmt colNo)
  let (dataType, colSize) :=
    ((env.describe (w.stmts tbStmt.hstmt).prepared)[colNo - 1]?).getD (0, 0)
  let size ← getTbTypeMaxStrSize env tbStmt.conn dataType colSize
  pure (dataType, size)

end TiberoFdw
