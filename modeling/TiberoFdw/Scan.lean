import TiberoFdw.Plan
import TiberoFdw.Transaction

/-!
# Scans

The callbacks of a scan. `tiberoBeginForeignScan` prepares the query and binds a
buffer for each result column; `tiberoIterateForeignScan` executes, fetches a
batch when it needs one, and hands out one tuple; `tiberoReScanForeignScan` makes
the next call start over.

The scan stands at a row of the result (`ScanAt`), and one call moves it by one
row (`iterate_scanAt`). A rescan goes back to the first row as long as no batch is
held; the counter of the batch is not reset, so that otherwise the next calls
hand out the old batch again (`returnsPrefix_of_cleanRescans`).
-/

namespace TiberoFdw

/-! ## The state of a scan -/

/-- `TbColumn`: a result column and its buffer, with the strings of a batch. -/
structure TbColumn where
  dataType : Int
  colSize : Nat
  data : List (Option Text)

/-- A tuple; NULL is `none`. -/
abbrev HeapTuple := List (Option Datum)

/-- `TbFdwScanState`; the table has the columns that were described. -/
structure TbFdwScanState where
  tupdesc : TupleDesc
  query : Text
  retrievedAttrs : List Int
  tuples : List HeapTuple
  fetchSize : Nat
  tupleCnt : Int
  curTupleIdx : Nat
  endOfFetch : Bool
  tbStmt : TbStatement
  table : List TbColumn
  useFbQuery : Bool

/-- `TB_FDW_INIT_TUPLE_CNT`: no batch was fetched yet. -/
def tbFdwInitTupleCnt : Int := -1

/-! ## Beginning -/

/-- The loop over the result columns that describes them. -/
def describeColumns (env : Environment) (tbStmt : TbStatement) : List Nat → Fdw (List TbColumn)
  | [] => pure []
  | i :: rest => do
    let (dataType, colSize) ← tbSqlDescribeCol env tbStmt (i + 1)
    let columns ← describeColumns env tbStmt rest
    pure (⟨dataType, colSize, []⟩ :: columns)

/-- `tiberoBeginForeignScan`; `none` under EXPLAIN. -/
def tiberoBeginForeignScan (pg : Postgres) (env : Environment) (rel : Relation)
    (user : UserMapping) (explainOnly : Bool) (fsplan : ForeignScan) :
    Fdw (Option TbFdwScanState) :=
  if explainOnly then pure none
  else do
    setSleepOnSigOn
    let fetchSize := (fsplan.fetchSize % 0x10000000000000000).toNat
    let tbStmt ← getTbStatement pg env user TbStatement.zeroed fsplan.useFbQuery
    tbSqlPrepare env tbStmt fsplan.selectSql
    let resColCnt ← tbSqlNumResultCols env tbStmt
    let table ← describeColumns env tbStmt (List.range resColCnt)
    let w ← Proc.read
    Proc.when (fsplan.useFbQuery && !w.isolationUsesXactSnapshot)
      (tbSqlBindParameter env tbStmt 1 NUMERICOID (.tsn tbStmt.conn))
    tbSqlSetStmtAttr env tbStmt SQL_ATTR_ROW_ARRAY_SIZE fetchSize
    -- the value is the address of `tuple_cnt`
    tbSqlSetStmtAttr env tbStmt SQL_ATTR_ROWS_FETCHED_PTR 0
    Proc.forEach (List.range resColCnt) fun i => tbSqlBindCol env tbStmt (i + 1)
    setSleepOnSigOff
    pure (some
      { tupdesc := rel.tupdesc
        query := fsplan.selectSql
        retrievedAttrs := fsplan.retrievedAttrs
        tuples := []
        fetchSize
        tupleCnt := tbFdwInitTupleCnt
        curTupleIdx := 0
        endOfFetch := false
        tbStmt := { tbStmt with resColCnt, queryExecuted := false }
        table
        useFbQuery := fsplan.useFbQuery })

/-! ## Tuples -/

/-- The loop of `make_tuples` over the retrieved attributes. `cell` is what is
stored for a result column, if it has a buffer. Every tuple sets the same values,
so that nothing of the tuple before it is left. -/
def fillValues (pg : Postgres) (tupdesc : TupleDesc) (cell : Nat → Option (Option Text)) :
    List Int → Nat → HeapTuple → Except PgError HeapTuple
  | [], _, dvalues => .ok dvalues
  | attnum :: rest, attid, dvalues =>
    if 1 ≤ attnum then
      match tupleDescAttr tupdesc (attnum - 1).toNat, cell attid with
      | some _, some none =>
        fillValues pg tupdesc cell rest (attid + 1) (dvalues.set (attnum - 1).toNat none)
      | some attr, some (some value) =>
        match pg.inputFunctionCall (pg.pgType attr.atttypid).typinput value attr.atttypid
            attr.atttypmod with
        | some datum =>
          fillValues pg tupdesc cell rest (attid + 1) (dvalues.set (attnum - 1).toNat (some datum))
        | none => .error ⟨.invalidTextRepresentation, "invalid input syntax"⟩
      | _, _ => .error ⟨.internalError, "index out of range"⟩
    else .error ⟨.internalError, "index out of range"⟩

/-- A tuple from the strings of its row. -/
def heapFormTuple (pg : Postgres) (tupdesc : TupleDesc) (retrievedAttrs : List Int)
    (cell : Nat → Option (Option Text)) : Except PgError HeapTuple :=
  fillValues pg tupdesc cell retrievedAttrs 0 (List.replicate tupdesc.length none)

/-- What the buffers hold for a row of the batch. -/
def TbFdwScanState.cell (fsstate : TbFdwScanState) (i attid : Nat) : Option (Option Text) :=
  (fsstate.table[attid]?).bind fun column => column.data[i]?

/-- The loop of `make_tuples` over the rows. -/
def formTuples (pg : Postgres) (fsstate : TbFdwScanState) :
    List Nat → Except PgError (List HeapTuple)
  | [] => .ok []
  | i :: rest =>
    match heapFormTuple pg fsstate.tupdesc fsstate.retrievedAttrs (fsstate.cell i) with
    | .ok tuple => (formTuples pg fsstate rest).map fun tuples => tuple :: tuples
    | .error e => .error e

/-- `make_tuples`. -/
def makeTuples (pg : Postgres) (fsstate : TbFdwScanState) : Fdw TbFdwScanState :=
  match formTuples pg fsstate (List.range fsstate.tupleCnt.toNat) with
  | .ok tuples => pure { fsstate with tuples }
  | .error e => Proc.raise e

/-! ## Iterating -/

/-- `need_fetch_tuples`. -/
def needFetchTuples (fsstate : TbFdwScanState) : Bool :=
  !fsstate.endOfFetch &&
    (fsstate.tupleCnt == tbFdwInitTupleCnt || (fsstate.curTupleIdx : Int) == fsstate.tupleCnt)

/-- `get_next_tuple`; an empty slot is `none`. -/
def getNextTuple (fsstate : TbFdwScanState) : Fdw (TbFdwScanState × Option HeapTuple) :=
  if fsstate.endOfFetch then pure (fsstate, none)
  else
    match fsstate.tuples[fsstate.curTupleIdx]? with
    | some tuple => pure ({ fsstate with curTupleIdx := fsstate.curTupleIdx + 1 }, some tuple)
    | none => Proc.raise ⟨.internalError, "index out of range"⟩

/-- What the driver writes into the bound buffers. -/
def storeBatch (batch : List Row) (table : List TbColumn) : List TbColumn :=
  table.mapIdx fun i column => { column with data := batch.map fun row => (row[i]?).join }

/-- `fetch_tuples`; the driver stores the number of rows in `tuple_cnt`. -/
def fetchTuples (pg : Postgres) (env : Environment) (fsstate : TbFdwScanState) :
    Fdw TbFdwScanState := do
  let (batch, atEnd) ← tbSqlFetch env fsstate.tbStmt
  let fsstate := { fsstate with
    table := if atEnd then fsstate.table else storeBatch batch fsstate.table
    tupleCnt := batch.length
    endOfFetch := fsstate.endOfFetch || atEnd
    curTupleIdx := 0 }
  if fsstate.endOfFetch then pure fsstate else makeTuples pg fsstate

/-- `tiberoIterateForeignScan`. -/
def tiberoIterateForeignScan (pg : Postgres) (env : Environment) (fsstate : TbFdwScanState) :
    Fdw (TbFdwScanState × Option HeapTuple) := do
  setSleepOnSigOn
  let tbStmt ← executeUnlessExecuted env fsstate.tbStmt
  let fsstate := { fsstate with tbStmt }
  let fetch := if needFetchTuples fsstate then fetchTuples pg env fsstate else pure fsstate
  let fsstate ← fetch
  let (fsstate, slot) ← getNextTuple fsstate
  setSleepOnSigOff
  pure (fsstate, slot)

/-- `tiberoReScanForeignScan`. -/
def tiberoReScanForeignScan (fsstate : TbFdwScanState) : Fdw TbFdwScanState := do
  setSleepOnSigOn
  setSleepOnSigOff
  pure { fsstate with
    endOfFetch := false
    curTupleIdx := 0
    tbStmt := { fsstate.tbStmt with queryExecuted := false } }

/-- `tiberoEndForeignScan`. -/
def tiberoEndForeignScan (env : Environment) (fsstate : Option TbFdwScanState) : Fdw Unit :=
  match fsstate with
  | none => pure ()
  | some fsstate => do
    setSleepOnSigOn
    tbSqlFreeStmt env fsstate.tbStmt .drop
    setSleepOnSigOff

/-! ## Runs -/

/-- A call of the executor. -/
inductive ScanOp : Type where
  | iterate
  | reScan
  deriving DecidableEq

/-- A scan, and what it has returned since it was started last. -/
structure ScanRun where
  fsstate : TbFdwScanState
  returned : List HeapTuple
  /-- the end was reported -/
  ended : Bool

/-- A scan that has just begun. -/
def ScanRun.start (fsstate : TbFdwScanState) : ScanRun := ⟨fsstate, [], false⟩

/-- A call of the executor. A rescan begins a new account of what was returned. -/
def ScanOp.run (pg : Postgres) (env : Environment) : ScanOp → ScanRun → Fdw ScanRun
  | .iterate, run => do
    let (fsstate, slot) ← tiberoIterateForeignScan pg env run.fsstate
    match slot with
    | some tuple => pure { run with fsstate, returned := run.returned ++ [tuple] }
    | none => pure { run with fsstate, ended := true }
  | .reScan, run => do
    let fsstate ← tiberoReScanForeignScan run.fsstate
    pure (ScanRun.start fsstate)

/-- The tuple of a row of the result. -/
def tupleOfRow (pg : Postgres) (fsstate : TbFdwScanState) (row : Row) :
    Except PgError HeapTuple :=
  heapFormTuple pg fsstate.tupdesc fsstate.retrievedAttrs fun attid =>
    if attid < fsstate.table.length then some (row[attid]?).join else none

/-! ## One batch -/

/-- The parts of a scan that stay as they are. -/
structure SameScan (fsstate fsstate' : TbFdwScanState) : Prop where
  tupdesc : fsstate'.tupdesc = fsstate.tupdesc
  retrievedAttrs : fsstate'.retrievedAttrs = fsstate.retrievedAttrs
  columns : fsstate'.table.length = fsstate.table.length
  hstmt : fsstate'.tbStmt.hstmt = fsstate.tbStmt.hstmt

theorem SameScan.refl (fsstate : TbFdwScanState) : SameScan fsstate fsstate := ⟨rfl, rfl, rfl, rfl⟩

theorem SameScan.trans {s₁ s₂ s₃ : TbFdwScanState} (h : SameScan s₁ s₂) (h' : SameScan s₂ s₃) :
    SameScan s₁ s₃ :=
  ⟨h'.tupdesc.trans h.tupdesc, h'.retrievedAttrs.trans h.retrievedAttrs,
    h'.columns.trans h.columns, h'.hstmt.trans h.hstmt⟩

theorem SameScan.tupleOfRow_eq {pg : Postgres} {s s' : TbFdwScanState} (h : SameScan s s') :
    tupleOfRow pg s' = tupleOfRow pg s := by
  funext row
  rw [tupleOfRow, tupleOfRow, h.tupdesc, h.retrievedAttrs, h.columns]

section

variable {pg : Postgres} {env : Environment} {w w' : World} {fsstate fsstate' : TbFdwScanState}

/-- The tuples of a batch are those of its rows. -/
theorem formTuples_ok {l : List Nat} {tuples : List HeapTuple}
    (h : formTuples pg fsstate l = .ok tuples) :
    tuples.map Except.ok = l.map fun i =>
      heapFormTuple pg fsstate.tupdesc fsstate.retrievedAttrs (fsstate.cell i) := by
  induction l generalizing tuples with
  | nil =>
    cases h
    rfl
  | cons i rest ih =>
    rw [formTuples] at h
    rcases hform : heapFormTuple pg fsstate.tupdesc fsstate.retrievedAttrs (fsstate.cell i) with
      e | tuple
    · rw [hform] at h
      cases h
    · rw [hform] at h
      rcases hrest : formTuples pg fsstate rest with e | tuples'
      · rw [hrest] at h
        cases h
      · rw [hrest] at h
        cases h
        rw [List.map_cons, List.map_cons, ih hrest, hform]

theorem makeTuples_ok (h : makeTuples pg fsstate w = .ok fsstate' w') :
    w' = w ∧ ∃ tuples, fsstate' = { fsstate with tuples } ∧
      tuples.map Except.ok = (List.range fsstate.tupleCnt.toNat).map fun i =>
        heapFormTuple pg fsstate.tupdesc fsstate.retrievedAttrs (fsstate.cell i) := by
  rw [makeTuples] at h
  rcases hform : formTuples pg fsstate (List.range fsstate.tupleCnt.toNat) with e | tuples
  · rw [hform] at h
    cases h
  · rw [hform] at h
    cases h
    exact ⟨rfl, tuples, rfl, formTuples_ok hform⟩

variable (pg fsstate) in
/-- The buffers hold the rows of the batch. -/
theorem storeBatch_tuples (batch : List Row) (fsstate' : TbFdwScanState)
    (htable : fsstate'.table = storeBatch batch fsstate.table)
    (htupdesc : fsstate'.tupdesc = fsstate.tupdesc)
    (hretrieved : fsstate'.retrievedAttrs = fsstate.retrievedAttrs) :
    ((List.range batch.length).map fun i =>
        heapFormTuple pg fsstate'.tupdesc fsstate'.retrievedAttrs (fsstate'.cell i)) =
      batch.map (tupleOfRow pg fsstate) := by
  refine List.ext_getElem (by simp) fun i hi hi' => ?_
  rw [List.length_map] at hi'
  rw [List.getElem_map, List.getElem_map, List.getElem_range, tupleOfRow, htupdesc, hretrieved]
  congr 1
  funext attid
  rw [TbFdwScanState.cell, htable, storeBatch, List.getElem?_mapIdx]
  by_cases hatt : attid < fsstate.table.length
  · rw [if_pos hatt, List.getElem?_eq_getElem hatt]
    simp [hi']
  · rw [if_neg hatt, List.getElem?_eq_none (Nat.le_of_not_lt hatt)]
    rfl

/-- The next batch of a statement. -/
def DriverStmt.batch (stmt : DriverStmt) : List Row := stmt.pending.take stmt.rowArraySize

/-- The statement after a fetch. -/
def DriverStmt.fetched (stmt : DriverStmt) : DriverStmt :=
  { stmt with pending := stmt.pending.drop stmt.rowArraySize }

/-- What a fetch delivers when the driver succeeds. -/
theorem tbSqlFetch_delivers (hok : env.AllOk) {tbStmt : TbStatement} {r : List Row × Bool}
    (h : tbSqlFetch env tbStmt w = .ok r w') :
    ((w.stmts tbStmt.hstmt).batch = [] ∧ r = ([], true) ∧ w'.stmts = w.stmts) ∨
      ((w.stmts tbStmt.hstmt).batch ≠ [] ∧ r = ((w.stmts tbStmt.hstmt).batch, false) ∧
        w'.stmts tbStmt.hstmt = (w.stmts tbStmt.hstmt).fetched) := by
  have hrc : sqlSucceeded (w.nextRc env) = true := hok _
  rw [tbSqlFetch] at h
  obtain ⟨⟨rc, batch⟩, w₁, hfetch, h⟩ := Proc.bind_eq_ok.mp h
  unfold sqlFetch at hfetch
  rw [if_neg (by simp [hrc])] at hfetch
  by_cases hbatch : (w.stmts tbStmt.hstmt).batch = []
  · rw [← DriverStmt.batch, hbatch, List.isEmpty_nil, if_pos rfl] at hfetch
    cases hfetch
    cases h
    exact .inl ⟨hbatch, rfl, rfl⟩
  · rw [← DriverStmt.batch, if_neg (by simpa using hbatch)] at hfetch
    cases hfetch
    have hdata : w.nextRc env ≠ SQL_NO_DATA := by
      intro hno
      rw [hno] at hrc
      cases hrc
    dsimp only at h
    rw [if_neg hdata] at h
    obtain ⟨_, w₂, hcheck, h⟩ := Proc.bind_eq_ok.mp h
    cases h
    obtain ⟨-, rfl⟩ := checkReturn_eq_ok.mp hcheck
    refine .inr ⟨hbatch, rfl, ?_⟩
    change (w.called env (.fetch tbStmt.hstmt)).stmts tbStmt.hstmt = _
    rw [World.called_stmts hrc]
    simp [SqlCall.effect, setStmt, DriverStmt.fetched]

/-- A batch was fetched, or the end was met. -/
theorem fetchTuples_ok (hok : env.AllOk) (hmore : fsstate.endOfFetch = false)
    (h : fetchTuples pg env fsstate w = .ok fsstate' w') :
    SameScan fsstate fsstate' ∧ fsstate'.tbStmt = fsstate.tbStmt ∧ fsstate'.curTupleIdx = 0 ∧
      (((w.stmts fsstate.tbStmt.hstmt).batch = [] ∧ fsstate'.endOfFetch = true ∧
        fsstate'.tupleCnt = 0 ∧ w'.stmts = w.stmts) ∨
      ((w.stmts fsstate.tbStmt.hstmt).batch ≠ [] ∧ fsstate'.endOfFetch = false ∧
        fsstate'.tupleCnt = fsstate'.tuples.length ∧
        fsstate'.tuples.map Except.ok =
          (w.stmts fsstate.tbStmt.hstmt).batch.map (tupleOfRow pg fsstate) ∧
        w'.stmts fsstate.tbStmt.hstmt = (w.stmts fsstate.tbStmt.hstmt).fetched)) := by
  rw [fetchTuples] at h
  obtain ⟨⟨batch, atEnd⟩, w₁, hfetch, h⟩ := Proc.bind_eq_ok.mp h
  rcases tbSqlFetch_delivers hok hfetch with ⟨hbatch, hr, hstmts⟩ | ⟨hbatch, hr, hstmt⟩
  · cases hr
    simp only [Bool.or_true, if_true] at h
    cases h
    exact ⟨⟨rfl, rfl, rfl, rfl⟩, rfl, rfl, .inl ⟨hbatch, rfl, rfl, hstmts⟩⟩
  · cases hr
    simp only [hmore, Bool.or_false, Bool.false_eq_true, if_false] at h
    obtain ⟨rfl, tuples, rfl, htuples⟩ := makeTuples_ok h
    have hrows := storeBatch_tuples pg fsstate
      (w.stmts fsstate.tbStmt.hstmt).batch
      { fsstate with table := storeBatch (w.stmts fsstate.tbStmt.hstmt).batch fsstate.table }
      rfl rfl rfl
    have hall : tuples.map Except.ok =
        (w.stmts fsstate.tbStmt.hstmt).batch.map (tupleOfRow pg fsstate) :=
      htuples.trans hrows
    have hlen := congrArg List.length hall
    rw [List.length_map, List.length_map] at hlen
    refine ⟨⟨rfl, rfl, ?_, rfl⟩, rfl, rfl, .inr ⟨hbatch, rfl, ?_, hall, hstmt⟩⟩
    · exact List.length_mapIdx ..
    · exact congrArg Nat.cast hlen.symm

end

/-! ## The position of a scan -/

/-- The scan has returned the first `n` rows of the result. -/
inductive ScanAt (tupleOf : Row → Except PgError HeapTuple) (rows : List Row) :
    Nat → TbFdwScanState → DriverStmt → Prop where
  /-- nothing was executed yet, and no batch is held -/
  | unstarted {fsstate : TbFdwScanState} {stmt : DriverStmt}
      (held : fsstate.tupleCnt = tbFdwInitTupleCnt ∨ fsstate.tupleCnt = 0)
      (cur : fsstate.curTupleIdx = 0) (more : fsstate.endOfFetch = false)
      (executed : fsstate.tbStmt.queryExecuted = false) : ScanAt tupleOf rows 0 fsstate stmt
  /-- a batch is held, and some of its tuples were returned -/
  | inBatch {fsstate : TbFdwScanState} {stmt : DriverStmt} (before : Nat)
      (tuples : fsstate.tuples.map Except.ok =
        ((rows.drop before).take fsstate.tuples.length).map tupleOf)
      (cnt : fsstate.tupleCnt = fsstate.tuples.length) (held : 0 < fsstate.tuples.length)
      (cur : fsstate.curTupleIdx ≤ fsstate.tuples.length) (more : fsstate.endOfFetch = false)
      (executed : fsstate.tbStmt.queryExecuted = true)
      (pending : stmt.pending = rows.drop (before + fsstate.tuples.length)) :
      ScanAt tupleOf rows (before + fsstate.curTupleIdx) fsstate stmt
  /-- the end was met -/
  | atEnd {fsstate : TbFdwScanState} {stmt : DriverStmt} (cnt : fsstate.tupleCnt = 0)
      (more : fsstate.endOfFetch = true) (executed : fsstate.tbStmt.queryExecuted = true) :
      ScanAt tupleOf rows rows.length fsstate stmt

/-- One call returned the next row, or there was none. -/
def Advances (tupleOf : Row → Except PgError HeapTuple) (rows : List Row) (n : Nat)
    (slot : Option HeapTuple) (fsstate : TbFdwScanState) (stmt : DriverStmt) : Prop :=
  (∃ tuple, slot = some tuple ∧ (rows[n]?).map tupleOf = some (.ok tuple) ∧
    ScanAt tupleOf rows (n + 1) fsstate stmt) ∨
  (slot = none ∧ n = rows.length ∧ ScanAt tupleOf rows n fsstate stmt)

section

variable {pg : Postgres} {env : Environment} {w w' : World} {fsstate fsstate' : TbFdwScanState}
  {tupleOf : Row → Except PgError HeapTuple} {rows : List Row}

theorem ScanAt.le_length {n : Nat} {stmt : DriverStmt} (h : ScanAt tupleOf rows n fsstate stmt) :
    n ≤ rows.length := by
  cases h with
  | unstarted => exact Nat.zero_le _
  | inBatch before tuples cnt held cur =>
    have hlen := congrArg List.length tuples
    simp only [List.length_map, List.length_take, List.length_drop] at hlen
    omega
  | atEnd => exact Nat.le_refl _

/-- The tuple of a batch at the position of the scan. -/
theorem tuple_of_batch {before i : Nat} {tuples : List HeapTuple} {tuple : HeapTuple}
    (htuples : tuples.map Except.ok = ((rows.drop before).take tuples.length).map tupleOf)
    (htuple : tuples[i]? = some tuple) :
    (rows[before + i]?).map tupleOf = some (.ok tuple) := by
  have hlt := (List.getElem?_eq_some_iff.mp htuple).1
  have h := congrArg (·[i]?) htuples
  simp only [List.getElem?_map, htuple, List.getElem?_take, List.getElem?_drop, hlt, if_true,
    Option.map_some] at h
  exact h.symm

/-- Handing out a tuple of the batch that is held. -/
theorem getNextTuple_advances {before : Nat} {slot : Option HeapTuple} {stmt : DriverStmt}
    (htuples : fsstate.tuples.map Except.ok =
      ((rows.drop before).take fsstate.tuples.length).map tupleOf)
    (hcnt : fsstate.tupleCnt = fsstate.tuples.length) (hmore : fsstate.endOfFetch = false)
    (hexecuted : fsstate.tbStmt.queryExecuted = true)
    (hpending : stmt.pending = rows.drop (before + fsstate.tuples.length))
    (h : getNextTuple fsstate w = .ok (fsstate', slot) w') :
    w' = w ∧ SameScan fsstate fsstate' ∧
      Advances tupleOf rows (before + fsstate.curTupleIdx) slot fsstate' stmt := by
  rw [getNextTuple, if_neg (by simp [hmore])] at h
  rcases htuple : fsstate.tuples[fsstate.curTupleIdx]? with _ | tuple
  · rw [htuple] at h
    cases h
  · rw [htuple] at h
    cases h
    have hlt := (List.getElem?_eq_some_iff.mp htuple).1
    refine ⟨rfl, ⟨rfl, rfl, rfl, rfl⟩, .inl ⟨tuple, rfl, tuple_of_batch htuples htuple, ?_⟩⟩
    exact @ScanAt.inBatch _ _ { fsstate with curTupleIdx := fsstate.curTupleIdx + 1 } _ before
      htuples hcnt (Nat.zero_lt_of_lt hlt) hlt hmore hexecuted hpending

/-- Fetching a batch and handing out its first tuple. -/
theorem fetchTuples_advances (hok : env.AllOk) {n : Nat} {slot : Option HeapTuple}
    {fsstate₁ : TbFdwScanState} {w₁ : World} (hn : n ≤ rows.length)
    (htupleOf : tupleOf = tupleOfRow pg fsstate) (hmore : fsstate.endOfFetch = false)
    (hexecuted : fsstate.tbStmt.queryExecuted = true)
    (hsize : 0 < (w.stmts fsstate.tbStmt.hstmt).rowArraySize)
    (hpending : (w.stmts fsstate.tbStmt.hstmt).pending = rows.drop n)
    (hfetch : fetchTuples pg env fsstate w = .ok fsstate₁ w₁)
    (hnext : getNextTuple fsstate₁ w₁ = .ok (fsstate', slot) w') :
    SameScan fsstate fsstate' ∧
      (w'.stmts fsstate.tbStmt.hstmt).rowArraySize =
        (w.stmts fsstate.tbStmt.hstmt).rowArraySize ∧
      Advances tupleOf rows n slot fsstate' (w'.stmts fsstate.tbStmt.hstmt) := by
  obtain ⟨hsame, htbStmt, hcur, hcases⟩ := fetchTuples_ok hok hmore hfetch
  have hexecuted₁ : fsstate₁.tbStmt.queryExecuted = true := by rw [htbStmt, hexecuted]
  rw [DriverStmt.batch, hpending] at hcases
  rcases hcases with ⟨hbatch, hend, hcnt, hstmts⟩ | ⟨hbatch, hend, hcnt, htuples, hstmt⟩
  · -- the end of the result
    have hnil : n = rows.length := by
      rcases List.take_eq_nil_iff.mp hbatch with hzero | hdrop
      · omega
      · have := List.drop_eq_nil_iff.mp hdrop
        omega
    rw [getNextTuple, hend, if_pos rfl] at hnext
    cases hnext
    refine ⟨hsame, by rw [hstmts], .inr ⟨rfl, hnil, ?_⟩⟩
    rw [hnil]
    exact .atEnd hcnt hend hexecuted₁
  · -- a batch
    have hlen := congrArg List.length htuples
    rw [List.length_map, List.length_map, List.length_take] at hlen
    have hheld : fsstate₁.tuples.map Except.ok =
        ((rows.drop n).take fsstate₁.tuples.length).map tupleOf := by
      rw [htuples, htupleOf, List.take_eq_take_min, hlen]
    have hheld' : 0 < fsstate₁.tuples.length := by
      rw [hlen, ← List.length_take]
      exact List.length_pos_iff.mpr hbatch
    have hpending₁ : (w₁.stmts fsstate.tbStmt.hstmt).pending =
        rows.drop (n + fsstate₁.tuples.length) := by
      rw [hstmt, DriverStmt.fetched, hpending, List.drop_drop, hlen, List.length_drop]
      -- the last batch may be shorter than the row array
      rcases Nat.le_total (w.stmts fsstate.tbStmt.hstmt).rowArraySize (rows.length - n) with h | h
      · rw [Nat.min_eq_left h]
      · rw [Nat.min_eq_right h, List.drop_of_length_le (by omega),
          List.drop_of_length_le (by omega)]
    obtain ⟨rfl, hsame', hadvances⟩ :=
      getNextTuple_advances hheld hcnt hend hexecuted₁ hpending₁ hnext
    rw [hcur, Nat.add_zero] at hadvances
    exact ⟨hsame.trans hsame', by rw [hstmt]; rfl, hadvances⟩

theorem needFetchTuples_iff (hmore : fsstate.endOfFetch = false) :
    needFetchTuples fsstate = true ↔
      fsstate.tupleCnt = tbFdwInitTupleCnt ∨ (fsstate.curTupleIdx : Int) = fsstate.tupleCnt := by
  simp [needFetchTuples, hmore]

/-- Executing puts the cursor before the first row. -/
theorem tbSqlExecute_rewinds (hresult : env.result w.trace.length = rows)
    {tbStmt stmt : TbStatement}
    (h : tbSqlExecute env tbStmt w = .ok stmt w') :
    stmt = { tbStmt with queryExecuted := true } ∧
      w'.stmts tbStmt.hstmt = { w.stmts tbStmt.hstmt with pending := rows } := by
  obtain ⟨hrc, rfl, rfl, -⟩ := tbSqlExecute_ok h
  refine ⟨rfl, ?_⟩
  rw [World.called_stmts hrc, SqlCall.effect, setStmt, if_pos rfl, hresult]

/-- **One call**: it returns the next row of the result, or reports the end. What is held of a
batch and what is still at the driver are together the rest of the result. -/
theorem iterate_scanAt (hok : env.AllOk)
    (hresult : fsstate.tbStmt.queryExecuted = false → env.result w.trace.length = rows) {n : Nat}
    {slot : Option HeapTuple} (htupleOf : tupleOf = tupleOfRow pg fsstate)
    (hsize : 0 < (w.stmts fsstate.tbStmt.hstmt).rowArraySize)
    (hat : ScanAt tupleOf rows n fsstate (w.stmts fsstate.tbStmt.hstmt))
    (h : tiberoIterateForeignScan pg env fsstate w = .ok (fsstate', slot) w') :
    SameScan fsstate fsstate' ∧
      (w'.stmts fsstate.tbStmt.hstmt).rowArraySize =
        (w.stmts fsstate.tbStmt.hstmt).rowArraySize ∧
      Advances tupleOf rows n slot fsstate' (w'.stmts fsstate.tbStmt.hstmt) := by
  rw [tiberoIterateForeignScan, setSleepOnSigOn, Proc.modify_bind_run] at h
  obtain ⟨tbStmt, w₁, hexecute, h⟩ := Proc.bind_eq_ok.mp h
  obtain ⟨fsstate₁, w₂, hfetch, h⟩ := Proc.bind_eq_ok.mp h
  obtain ⟨⟨fsstate₂, slot₂⟩, w₃, hnext, h⟩ := Proc.bind_eq_ok.mp h
  cases h
  rw [executeUnlessExecuted] at hexecute
  have hle := hat.le_length
  -- the state of the scan decides what the callback does
  cases hat with
  | unstarted held cur more executed =>
    rw [if_neg (by simp [executed])] at hexecute
    -- the result is opened, and the first batch is fetched
    have hresult' : env.result { w with useSleepOnSig := true }.trace.length = rows :=
      hresult executed
    obtain ⟨rfl, hstmt⟩ := tbSqlExecute_rewinds hresult' hexecute
    change w₁.stmts fsstate.tbStmt.hstmt =
      { w.stmts fsstate.tbStmt.hstmt with pending := rows } at hstmt
    have hneed : needFetchTuples
        { fsstate with tbStmt := { fsstate.tbStmt with queryExecuted := true } } = true := by
      refine (needFetchTuples_iff more).mpr (held.imp_right fun hzero => ?_)
      rw [cur, hzero]
      rfl
    rw [if_pos hneed] at hfetch
    have hrow : tupleOf = tupleOfRow pg
      { fsstate with tbStmt := { fsstate.tbStmt with queryExecuted := true } } := htupleOf
    obtain ⟨hsame, hkept, hadvances⟩ := fetchTuples_advances hok (Nat.zero_le rows.length) hrow more
      rfl (by rw [hstmt]; exact hsize) (by rw [hstmt]; rfl) hfetch hnext
    refine ⟨⟨hsame.tupdesc, hsame.retrievedAttrs, hsame.columns, hsame.hstmt⟩, ?_, hadvances⟩
    exact hkept.trans (by rw [hstmt])
  | inBatch before tuples cnt held cur more executed pending =>
    rw [if_pos executed] at hexecute
    cases hexecute
    rcases Nat.lt_or_eq_of_le cur with hlt | heq
    · -- within the batch
      have hneed : ¬needFetchTuples fsstate = true := by
        rw [needFetchTuples_iff more, cnt, tbFdwInitTupleCnt]
        omega
      rw [if_neg hneed] at hfetch
      cases hfetch
      obtain ⟨rfl, hsame, hadvances⟩ :=
        getNextTuple_advances tuples cnt more executed pending hnext
      exact ⟨hsame, rfl, hadvances⟩
    · -- the batch is used up
      have hneed : needFetchTuples fsstate = true := by
        rw [needFetchTuples_iff more, cnt, heq]
        exact .inr rfl
      rw [if_pos hneed] at hfetch
      rw [heq] at hle ⊢
      have hall := fetchTuples_advances (w := { w with useSleepOnSig := true }) hok hle htupleOf
        more executed hsize pending hfetch hnext
      exact hall
  | atEnd cnt more executed =>
    rw [if_pos executed] at hexecute
    cases hexecute
    have hneed : needFetchTuples fsstate = false := by simp [needFetchTuples, more]
    rw [if_neg (by simp [hneed])] at hfetch
    cases hfetch
    rw [getNextTuple, if_pos more] at hnext
    cases hnext
    exact ⟨SameScan.refl _, rfl, .inr ⟨rfl, rfl, .atEnd cnt more executed⟩⟩

/-- A rescan that finds no batch starts over. -/
theorem reScan_scanAt {n : Nat} {stmt : DriverStmt} (hat : ScanAt tupleOf rows n fsstate stmt)
    (hclean : fsstate.tupleCnt ≤ 0) (h : tiberoReScanForeignScan fsstate w = .ok fsstate' w') :
    SameScan fsstate fsstate' ∧ w'.stmts = w.stmts ∧ ScanAt tupleOf rows 0 fsstate' stmt := by
  cases h
  refine ⟨⟨rfl, rfl, rfl, rfl⟩, rfl, .unstarted ?_ rfl rfl rfl⟩
  change fsstate.tupleCnt = tbFdwInitTupleCnt ∨ fsstate.tupleCnt = 0
  cases hat with
  | unstarted held => exact held
  | inBatch before tuples cnt held =>
    rw [cnt] at hclean
    omega
  | atEnd cnt => exact .inr cnt

end

/-! ## Runs -/

/-- The tuples that were returned since the scan was started last are the first
ones of the result, and the end was reported only after all of them. -/
def ReturnsPrefix (pg : Postgres) (env : Environment) (rows : List Row) (fsstate : TbFdwScanState)
    (ops : List ScanOp) (w : World) : Prop :=
  ∀ run w', Proc.fold (ScanOp.run pg env) ops (ScanRun.start fsstate) w = .ok run w' →
    run.returned.map Except.ok <+: rows.map (tupleOfRow pg fsstate) ∧
      (run.ended = true → run.returned.map Except.ok = rows.map (tupleOfRow pg fsstate))

/-- The condition under which a step keeps the position: no rescan is made while
a batch is held. -/
def RescansCleanly (op : ScanOp) (run : ScanRun) (_ : World) : Prop :=
  op = .reScan → run.fsstate.tupleCnt ≤ 0

instance (op : ScanOp) (run : ScanRun) (w : World) : Decidable (RescansCleanly op run w) :=
  inferInstanceAs (Decidable (_ → _))

section

variable {pg : Postgres} {env : Environment} {w w' : World} {fsstate fsstate₀ : TbFdwScanState}
  {rows : List Row}

/-- What holds in a run. -/
structure InScan (pg : Postgres) (rows : List Row) (fsstate₀ : TbFdwScanState) (run : ScanRun)
    (w : World) : Prop where
  same : SameScan fsstate₀ run.fsstate
  size : 0 < (w.stmts fsstate₀.tbStmt.hstmt).rowArraySize
  position : ∃ n, ScanAt (tupleOfRow pg fsstate₀) rows n run.fsstate
      (w.stmts fsstate₀.tbStmt.hstmt) ∧
    run.returned.map Except.ok = (rows.take n).map (tupleOfRow pg fsstate₀) ∧
    (run.ended = true → n = rows.length)

theorem InScan.step (hok : env.AllOk) (hresult : ∀ n, env.result n = rows) {op : ScanOp}
    {run run' : ScanRun} (hclean : RescansCleanly op run w) (h : InScan pg rows fsstate₀ run w)
    (hrun : op.run pg env run w = .ok run' w') : InScan pg rows fsstate₀ run' w' := by
  obtain ⟨n, hat, hreturned, hended⟩ := h.position
  cases op with
  | iterate =>
    obtain ⟨⟨fsstate, slot⟩, w₁, hiterate, hrun⟩ := Proc.bind_eq_ok.mp hrun
    have hsize := h.size
    rw [← h.same.hstmt] at hat hsize
    obtain ⟨hsame, hkept, hadvances⟩ :=
      iterate_scanAt hok (fun _ => hresult _) h.same.tupleOfRow_eq.symm hsize hat hiterate
    rw [h.same.hstmt] at hkept hadvances hsize
    rcases hadvances with ⟨tuple, rfl, htuple, hat'⟩ | ⟨rfl, hn, hat'⟩
    · cases hrun
      obtain ⟨row, hrow, hform⟩ := Option.map_eq_some_iff.mp htuple
      obtain ⟨hlt, hget⟩ := List.getElem?_eq_some_iff.mp hrow
      refine ⟨h.same.trans hsame, by rw [hkept]; exact hsize, n + 1, hat', ?_, fun hend => ?_⟩
      · rw [List.map_append, hreturned, List.take_succ_eq_append_getElem hlt, List.map_append, hget,
          List.map_singleton, List.map_singleton, hform]
      · have := hended hend
        omega
    · cases hrun
      exact ⟨h.same.trans hsame, by rw [hkept]; exact hsize, n, hat', hreturned, fun _ => hn⟩
  | reScan =>
    obtain ⟨fsstate, w₁, hrescan, hrun⟩ := Proc.bind_eq_ok.mp hrun
    cases hrun
    obtain ⟨hsame, hstmts, hat'⟩ := reScan_scanAt hat (hclean rfl) hrescan
    exact ⟨h.same.trans hsame, by rw [hstmts]; exact h.size, 0, by rw [hstmts]; exact hat', rfl,
      fun hend => by cases hend⟩

/-- The loop that binds the columns keeps the size of the batches. -/
theorem bindCols_ok {tbStmt : TbStatement} {l : List Nat} {u : Unit}
    (h : Proc.forEach l (fun i => tbSqlBindCol env tbStmt (i + 1)) w = .ok u w') :
    w'.stmts = w.stmts := by
  induction l generalizing w with
  | nil =>
    cases h
    rfl
  | cons i rest ih =>
    obtain ⟨_, w₁, hbind, hrest⟩ := Proc.bind_eq_ok.mp h
    obtain ⟨hrc, rfl⟩ := tbCall_eq_ok.mp hbind
    rw [ih hrest, World.called_stmts hrc]
    rfl

/-- A scan that has begun stands before the first row. -/
theorem tiberoBeginForeignScan_ok {rel : Relation} {user : UserMapping} {fsplan : ForeignScan}
    (h : tiberoBeginForeignScan pg env rel user false fsplan w = .ok (some fsstate) w')
    (hsize : 0 < fsstate.fetchSize) :
    InScan pg rows fsstate (ScanRun.start fsstate) w' := by
  rw [tiberoBeginForeignScan, if_neg (by decide), setSleepOnSigOn, Proc.modify_bind_run] at h
  obtain ⟨tbStmt, w₁, -, h⟩ := Proc.bind_eq_ok.mp h
  obtain ⟨_, w₂, -, h⟩ := Proc.bind_eq_ok.mp h
  obtain ⟨resColCnt, w₃, -, h⟩ := Proc.bind_eq_ok.mp h
  obtain ⟨table, w₄, -, h⟩ := Proc.bind_eq_ok.mp h
  rw [Proc.read_bind_run] at h
  obtain ⟨_, w₅, -, h⟩ := Proc.bind_eq_ok.mp h
  obtain ⟨_, w₆, hrows, h⟩ := Proc.bind_eq_ok.mp h
  obtain ⟨_, w₇, hptr, h⟩ := Proc.bind_eq_ok.mp h
  obtain ⟨_, w₈, hcols, h⟩ := Proc.bind_eq_ok.mp h
  cases h
  obtain ⟨hrc₆, rfl⟩ := tbCall_eq_ok.mp hrows
  obtain ⟨hrc₇, rfl⟩ := tbCall_eq_ok.mp hptr
  refine ⟨SameScan.refl _, ?_, 0, .unstarted (.inl rfl) rfl rfl rfl, rfl, fun hend => by cases hend⟩
  change 0 < (w₈.stmts tbStmt.hstmt).rowArraySize
  rw [bindCols_ok hcols, World.called_stmts hrc₇]
  change 0 < ((w₅.called env (.setStmtAttr tbStmt.hstmt SQL_ATTR_ROW_ARRAY_SIZE _)).stmts
    tbStmt.hstmt).rowArraySize
  rw [World.called_stmts hrc₆]
  simpa [SqlCall.effect, setStmt] using hsize

/-- **A scan returns the result**: as long as no rescan is made while a batch is
held, the tuples since the last start are the first ones of the result, and the
end is reported only after all of them. A rescan of a scan that holds a batch hands out that
batch once more, so the condition on the rescans cannot be dropped. -/
theorem returnsPrefix_of_cleanRescans {rel : Relation} {user : UserMapping} {fsplan : ForeignScan}
    {w₀ : World} (hok : env.AllOk) (hresult : ∀ n, env.result n = rows)
    (hbegin : tiberoBeginForeignScan pg env rel user false fsplan w₀ = .ok (some fsstate) w)
    (hsize : 0 < fsstate.fetchSize) {ops : List ScanOp}
    (hclean : Proc.StepsMeet RescansCleanly (ScanOp.run pg env) ops (ScanRun.start fsstate) w) :
    ReturnsPrefix pg env rows fsstate ops w := by
  intro run w' hrun
  have hin := Proc.fold_ok (fun op run w run' w' hmeet h hstep => h.step hok hresult hmeet hstep)
    hclean (tiberoBeginForeignScan_ok hbegin hsize) hrun
  obtain ⟨n, -, hreturned, hended⟩ := hin.position
  rw [hreturned]
  refine ⟨(List.take_prefix n rows).map _, fun hend => ?_⟩
  rw [hended hend, List.take_length]

end

/-- A driver that succeeds and finds the same rows of one text column for every
query. -/
def Environment.delivering (rows : List Row) : Environment :=
  { Environment.succeeding with result := fun _ => rows, describe := fun _ => [(SQL_VARCHAR, 10)] }

theorem Environment.delivering_allOk (rows : List Row) : (delivering rows).AllOk := fun _ => rfl

/-- A scan of the table with one text column, two rows at a time. -/
def twoAtATimeScan : ForeignScan where
  selectSql := "SELECT c FROM t".toList
  retrievedAttrs := [1]
  fetchSize := 2
  useFbQuery := false
  localExprs := []
  fdwRecheckQuals := []

/-- A result of two rows. -/
def twoRows : List Row := [[some "a".toList], [some "b".toList]]

/-- The scan of the two rows has begun. -/
def TwoRowsScan (fsstate : TbFdwScanState) (w : World) : Prop :=
  tiberoBeginForeignScan .small (.delivering twoRows) textTable .sample false twoAtATimeScan
      .start =
    .ok (some fsstate) w

/-- A computation after the scan of the two rows has begun. -/
theorem TwoRowsScan.exists_of_any {p : TbFdwScanState → World → Bool}
    (h : (tiberoBeginForeignScan .small (.delivering twoRows) textTable .sample false twoAtATimeScan
      .start).okAnd (fun fsstate w => fsstate.any (p · w)) = true) :
    ∃ fsstate w, TwoRowsScan fsstate w ∧ p fsstate w = true := by
  obtain ⟨_ | fsstate, w, hbegin, hp⟩ := Outcome.exists_of_okAnd h
  · cases hp
  · exact ⟨fsstate, w, hbegin, hp⟩

/-- A rescan after the end finds no batch. -/
theorem rescanAtEnd_returnsPrefix :
    ∃ fsstate w, TwoRowsScan fsstate w ∧
      ReturnsPrefix .small (.delivering twoRows) twoRows fsstate
        [.iterate, .iterate, .iterate, .reScan, .iterate] w := by
  obtain ⟨fsstate, w, hbegin, h⟩ := TwoRowsScan.exists_of_any (p := fun fsstate w =>
    0 < fsstate.fetchSize &&
      decide (Proc.StepsMeet RescansCleanly (ScanOp.run .small (.delivering twoRows))
        [.iterate, .iterate, .iterate, .reScan, .iterate] (ScanRun.start fsstate) w))
    (by decide +kernel)
  obtain ⟨hsize, hclean⟩ := Bool.and_eq_true_iff.mp h
  exact ⟨fsstate, w, hbegin, returnsPrefix_of_cleanRescans (Environment.delivering_allOk _)
    (fun _ => rfl) hbegin (of_decide_eq_true hsize) (of_decide_eq_true hclean)⟩

/-- A rescan after the first row of the batch: the batch is handed out once more,
and then the result from its start. -/
theorem rescanInBatch_not_returnsPrefix :
    ∃ fsstate w, TwoRowsScan fsstate w ∧
      ¬ReturnsPrefix .small (.delivering twoRows) twoRows fsstate
        [.iterate, .reScan, .iterate, .iterate, .iterate] w := by
  obtain ⟨fsstate, w, hbegin, h⟩ := TwoRowsScan.exists_of_any (p := fun fsstate w =>
    (Proc.fold (ScanOp.run .small (.delivering twoRows))
      [.iterate, .reScan, .iterate, .iterate, .iterate] (ScanRun.start fsstate) w).okAnd
        fun run _ => run.returned.length == 3)
    (by decide +kernel)
  obtain ⟨run, w', hrun, hlen⟩ := Outcome.exists_of_okAnd h
  refine ⟨fsstate, w, hbegin, fun hreturned => ?_⟩
  -- three rows are no prefix of two
  have hle := (hreturned run w' hrun).1.length_le
  rw [List.length_map, List.length_map, eq_of_beq hlen] at hle
  exact absurd hle (by decide)

end TiberoFdw
