import TiberoFdw.Driver

/-!
# The connection cache

`connection.c`: one cached connection for each user mapping, the remote
transaction on it, and the callbacks at the end of a transaction and at an
invalidation. `getTbStatement` is the entry point of the callbacks of a scan and
of a modification.
-/

namespace TiberoFdw

/-! ## Opening and closing -/

/-- `begin_remote_xact`. -/
def beginRemoteXact (env : Environment) (tbStmt : TbStatement) (isSerializable : Bool) :
    Fdw Unit := do
  tbSqlSetConnectAttr env tbStmt.conn SQL_ATTR_AUTOCOMMIT SQL_AUTOCOMMIT_OFF
  tbSqlExecDirect env tbStmt
    (if isSerializable then "SET TRANSACTION ISOLATION LEVEL SERIALIZABLE".toList
      else "SET TRANSACTION ISOLATION LEVEL READ COMMITTED".toList)
  modifyConn tbStmt.conn fun c => { c with beginRemoteXact := true }

/-- The connection parameters `make_tb_connection` collects. -/
structure ConnParams where
  host : Option Text
  port : Option Text
  dbname : Option Text
  username : Option Text
  password : Option Text

/-- `%s` of a string that may be missing. -/
def printfS (s : Option Text) : Text := s.getD "(null)".toList

/-- The connection string, cut off at the end of its buffer. -/
def connectionString (p : ConnParams) : Text :=
  ("SERVER=".toList ++ printfS p.host ++ ";PORT=".toList ++ printfS p.port ++ ";DB=".toList ++
    printfS p.dbname ++ ";UID=".toList ++ printfS p.username ++ ";PWD=".toList ++
    printfS p.password).take 511

/-- `connect_tb_server`. -/
def connectTbServer (env : Environment) (key : ConnCacheKey) (params : ConnParams) :
    Fdw Unit := do
  let henv ← tbSqlAllocHandle env key .env SQL_NULL_HANDLE
    fun h => modifyConn key fun c => { c with henv := h }
  tbSqlSetEnvAttr env key SQL_ATTR_ODBC_VERSION SQL_OV_ODBC3
  let _ ← tbSqlAllocHandle env key .dbc henv fun h => modifyConn key fun c => { c with hdbc := h }
  tbSqlDriverConnect env key (connectionString params)
  modifyConn key fun c => { c with connected := true }

/-- `disconnect_tb_server`. -/
def disconnectTbServer (env : Environment) (key : ConnCacheKey) : Fdw Unit := do
  let w ← Proc.read
  Proc.when (w.conn key).connected do
    tbSqlDisconnect env key
    tbSqlFreeHandle env key .dbc (w.conn key).hdbc
    tbSqlFreeHandle env key .env (w.conn key).henv
    modifyConn key fun c => { c with beginRemoteXact := false, connected := false }

/-- `need_remote_snapshot`. -/
def needRemoteSnapshot (w : World) (key : ConnCacheKey) : Bool :=
  !w.isolationUsesXactSnapshot && decide ((w.conn key).stmtTs ≠ w.statementStart)

/-- `TbfdwInvalCallback` on one entry. -/
def invalidateEntry (cacheid : CacheId) (hashvalue : Nat) (conn : ConnCacheEntry) :
    ConnCacheEntry :=
  if conn.connected && (hashvalue == 0 ||
      (cacheid == .foreignServerOid && conn.serverHashvalue == hashvalue) ||
      (cacheid == .userMappingOid && conn.mappingHashvalue == hashvalue)) then
    { conn with invalidated := true }
  else conn

/-- `TbfdwInvalCallback`. -/
def tbfdwInvalCallback (cacheid : CacheId) (hashvalue : Nat) : Fdw Unit := do
  setSleepOnSigOn
  Proc.modify fun w =>
    { w with conn := fun k =>
        if k ∈ w.keys then invalidateEntry cacheid hashvalue (w.conn k) else w.conn k }
  setSleepOnSigOff

/-- `GetForeignServer`; pending invalidations are delivered inside. -/
def getForeignServer (env : Environment) (serverid : Oid) : Fdw ForeignServer := do
  let w ← Proc.read
  Proc.modify fun w => { w with lookups := w.lookups + 1 }
  Proc.forEach (env.deliveries w.lookups) fun (cacheid, hashvalue) =>
    tbfdwInvalCallback cacheid hashvalue
  pure (env.foreignServer w.lookups serverid)

/-- The loop of `make_tb_connection` over the server options: the parameters,
and `keep_connections`. -/
def applyConnectionOption (pg : Postgres) (key : ConnCacheKey) (params : ConnParams)
    (def_ : DefElem) : Fdw ConnParams :=
  if def_.defname = "host" then pure { params with host := some def_.arg }
  else if def_.defname = "port" then pure { params with port := some def_.arg }
  else if def_.defname = "dbname" then pure { params with dbname := some def_.arg }
  else if def_.defname = "keep_connections" then
    match pg.defGetBoolean def_.arg with
    | some keep => do
      modifyConn key fun c => { c with keepConnections := keep }
      pure params
    | none => Proc.raise ⟨.syntaxError, def_.defname ++ " requires a Boolean value"⟩
  else pure params

/-- The loop of `make_tb_connection` over the options of the server. -/
def applyConnectionOptions (pg : Postgres) (key : ConnCacheKey) :
    List DefElem → ConnParams → Fdw ConnParams
  | [], params => pure params
  | def_ :: rest, params => do
    let params ← applyConnectionOption pg key params def_
    applyConnectionOptions pg key rest params

/-- The loop of `make_tb_connection` over the options of the user mapping. -/
def applyUserOption (params : ConnParams) (def_ : DefElem) : ConnParams :=
  if def_.defname = "username" then { params with username := some def_.arg }
  else if def_.defname = "password" then { params with password := some def_.arg }
  else params

/-- The fields `make_tb_connection` sets before it reads the options. -/
def resetEntry (env : Environment) (server : ForeignServer) (user : UserMapping)
    (conn : ConnCacheEntry) : ConnCacheEntry :=
  { conn with
    serverid := server.serverid
    serverHashvalue := env.serverHash server.serverid
    mappingHashvalue := env.mappingHash user.umid
    invalidated := false
    beginRemoteXact := false
    keepConnections := true
    stmtTs := 0 }

/-- `make_tb_connection`. -/
def makeTbConnection (pg : Postgres) (env : Environment) (key : ConnCacheKey)
    (user : UserMapping) : Fdw Unit := do
  let server ← getForeignServer env user.serverid
  modifyConn key (resetEntry env server user)
  let params ← applyConnectionOptions pg key server.options ⟨none, none, none, none, none⟩
  connectTbServer env key (user.options.foldl applyUserOption params)

/-! ## Statements -/

/-- `hash_search` with `HASH_ENTER`: an entry that is new is only marked as not
connected. -/
def hashEnter (env : Environment) (key : ConnCacheKey) : Fdw Unit :=
  Proc.modify fun w =>
    if key ∈ w.keys then w
    else
      { w.setConn key fun c => { c with connected := false } with
        keys := w.keys.take (env.hashSlot key w.keys) ++ key ::
          w.keys.drop (env.hashSlot key w.keys) }

/-- What the fetch of the snapshot leaves in the `tsn` buffer. -/
def storeTsn (key : ConnCacheKey) (batch : List Row) : Fdw Unit :=
  match batch with
  | (some tsn :: _) :: _ => modifyConn key fun c => { c with tsn := tsn.take 31 }
  | _ => pure ()

/-- The part of `get_tb_statement` that reads the snapshot of the statement. -/
def fetchTsn (env : Environment) (tbStmt : TbStatement) : Fdw Unit := do
  tbSqlExecDirect env tbStmt "SELECT current_tsn FROM v$database".toList
  tbSqlBindCol env tbStmt 1
  let (batch, _) ← tbSqlFetch env tbStmt
  storeTsn tbStmt.conn batch
  tbSqlFreeStmt env tbStmt .close
  Proc.modify fun w => w.setConn tbStmt.conn fun c => { c with stmtTs := w.statementStart }

/-- The first half of the `PG_TRY` block of `get_tb_statement`: an invalidated
connection is closed, and a missing one is opened. -/
def ensureConnection (pg : Postgres) (env : Environment) (key : ConnCacheKey)
    (user : UserMapping) : Fdw Unit := do
  let w ← Proc.read
  Proc.when ((w.conn key).connected && (w.conn key).invalidated) (disconnectTbServer env key)
  let w ← Proc.read
  Proc.when (!(w.conn key).connected) (makeTbConnection pg env key user)

/-- A new statement of the connection. -/
def allocStatement (env : Environment) (tbStmt : TbStatement) : Fdw TbStatement := do
  let w ← Proc.read
  let hstmt ← tbSqlAllocHandle env tbStmt.conn .stmt (w.conn tbStmt.conn).hdbc fun _ => pure ()
  pure { tbStmt with hstmt }

/-- The second half of the `PG_TRY` block: a statement, in a remote transaction,
with the snapshot of the local statement. -/
def openStatement (env : Environment) (tbStmt : TbStatement) (useFbQuery : Bool) :
    Fdw TbStatement := do
  let tbStmt ← allocStatement env tbStmt
  let w ← Proc.read
  Proc.when (!(w.conn tbStmt.conn).beginRemoteXact)
    (beginRemoteXact env tbStmt w.isolationUsesXactSnapshot)
  let w ← Proc.read
  Proc.when (useFbQuery && needRemoteSnapshot w tbStmt.conn) (fetchTsn env tbStmt)
  let w ← Proc.read
  pure { tbStmt with tsn := (w.conn tbStmt.conn).tsn }

/-- The body of the `PG_TRY` block of `get_tb_statement`. -/
def tryTbStatement (pg : Postgres) (env : Environment) (user : UserMapping) (tbStmt : TbStatement)
    (useFbQuery : Bool) : Fdw TbStatement := do
  ensureConnection pg env tbStmt.conn user
  openStatement env tbStmt useFbQuery

/-- The second attempt of `get_tb_statement`, after an `ERRCODE_FDW_ERROR`. -/
def retryTbStatement (pg : Postgres) (env : Environment) (user : UserMapping)
    (tbStmt : TbStatement) : Fdw TbStatement := do
  disconnectTbServer env tbStmt.conn
  makeTbConnection pg env tbStmt.conn user
  let tbStmt ← allocStatement env tbStmt
  let w ← Proc.read
  beginRemoteXact env tbStmt w.isolationUsesXactSnapshot
  pure tbStmt

/-- `get_tb_statement`. -/
def getTbStatement (pg : Postgres) (env : Environment) (user : UserMapping)
    (tbStmt : TbStatement) (useFbQuery : Bool) : Fdw TbStatement := do
  Proc.modify fun w => { w with xactGotConnection := true }
  hashEnter env user.umid
  let tbStmt := { tbStmt with conn := user.umid }
  (tryTbStatement pg env user tbStmt useFbQuery).onError fun err =>
    if err.sqlerrcode = .fdwError then retryTbStatement pg env user tbStmt else Proc.raise err

/-! ## The transaction callbacks -/

/-- `XactEvent`. -/
inductive XactEvent : Type where
  | commit
  | parallelCommit
  | abort
  | parallelAbort
  | prepare
  | preCommit
  | parallelPreCommit
  | prePrepare
  deriving DecidableEq

/-- End the remote transaction of a connected entry. -/
def endRemoteXact (env : Environment) (key : ConnCacheKey) (completionType : CompletionType) :
    Fdw Unit := do
  let w ← Proc.read
  Proc.when (w.conn key).connected do
    tbSqlEndTran env key completionType
    let w ← Proc.read
    Proc.when ((w.conn key).invalidated || !(w.conn key).keepConnections)
      (disconnectTbServer env key)

/-- `TbfdwXactCallback` on one entry. -/
def xactCallbackEntry (env : Environment) (event : XactEvent) (key : ConnCacheKey) :
    Fdw Unit := do
  let w ← Proc.read
  Proc.when (w.conn key).beginRemoteXact
    (match event with
    | .parallelPreCommit | .preCommit => endRemoteXact env key .commit
    | .prePrepare => pure ()
    | .parallelCommit | .commit | .prepare => pure ()
    | .parallelAbort | .abort =>
      if w.inErrorRecursionTrouble then modifyConn key fun c => { c with connected := false }
      else endRemoteXact env key .rollback)

/-- `TbfdwXactCallback`. -/
def tbfdwXactCallback (env : Environment) (event : XactEvent) : Fdw Unit := do
  let w ← Proc.read
  Proc.when w.xactGotConnection do
    setSleepOnSigOn
    Proc.forEach w.keys (xactCallbackEntry env event)
    Proc.modify fun w => { w with xactGotConnection := false }
    setSleepOnSigOff

/-- `TbfdwSubxactCallback`, which does nothing between the signal flags. -/
def tbfdwSubxactCallback : Fdw Unit := do
  let w ← Proc.read
  Proc.when w.xactGotConnection do
    setSleepOnSigOn
    setSleepOnSigOff

end TiberoFdw
