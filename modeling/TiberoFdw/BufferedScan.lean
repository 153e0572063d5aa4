import TiberoFdw.Batches
import TiberoFdw.Buffers
import TiberoFdw.Lib.Simulation
import TiberoFdw.Bindings
import TiberoFdw.Options

/-!
# Scans in memory

The callbacks of a scan over the memory of `Buffers`: `tiberoBeginForeignScan` allocates it,
`fetch_tuples` has the driver write into it, and `make_tuples` reads it.

* `bufferedRun_refines` — they do what the callbacks of `Scan` do when the driver delivers its rows
  with every text cut to the width of its column. The only memory that is used without being there
  is the array of columns, when the result has more columns than the foreign table;
* `iterates_returnsRows` — what the calls return for the rows of a result, without the memory and
  with it.
-/

namespace TiberoFdw

/-! ## Definitions -/

/-- The largest request that `palloc0` takes. -/
def maxAllocSize : Nat := 0x3fffffff

/-- The error of `palloc0` for a request of that size. -/
def invalidAllocSize (size : Nat) : PgError :=
  ⟨.internalError, "invalid memory alloc request size " ++ toString size⟩

/-- `palloc0`: the number of bytes that are there afterwards. The size is of 64 bits. -/
def palloc0 (size : Nat) : Fdw Nat :=
  let size := size % 0x10000000000000000
  if maxAllocSize < size then Proc.raise (invalidAllocSize size) else pure size

/-- `sizeof(SQLLEN)`. -/
def sizeofSqllen : Nat := 8

/-- The loop over the result columns that describes them and allocates their memory. The array
`table->column` has `natts` elements, one for each attribute of the foreign table; the loop counts
the columns of the result, and a result with more of them is beyond its end. -/
def describeBuffers (env : Environment) (natts : Nat) (tbStmt : TbStatement) (fetchSize : Nat) :
    List Nat → Fdw (List (TbColumn × ColumnBuffer))
  | [] => pure []
  | i :: rest =>
    if natts ≤ i then Proc.raise accessFault
    else do
      let (dataType, colSize) ← tbSqlDescribeCol env tbStmt (i + 1)
      let data ← palloc0 (colSize * fetchSize)
      let ind ← palloc0 (sizeofSqllen * fetchSize)
      let columns ← describeBuffers env natts tbStmt fetchSize rest
      pure ((⟨dataType, colSize, []⟩,
        ⟨colSize, List.replicate data nul, List.replicate (ind / sizeofSqllen) 0⟩) :: columns)

/-- A scan with its memory; the strings in its `table` are not used. -/
structure BufferedScan where
  fsstate : TbFdwScanState
  /-- the memory of the columns of `table` -/
  buffers : List ColumnBuffer

/-- `tiberoBeginForeignScan`, with its allocations. -/
def beginBufferedScan (pg : Postgres) (env : Environment) (rel : Relation) (user : UserMapping)
    (explainOnly : Bool) (fsplan : ForeignScan) : Fdw (Option BufferedScan) :=
  if explainOnly then pure none
  else do
    setSleepOnSigOn
    let fetchSize := (fsplan.fetchSize % 0x10000000000000000).toNat
    let tbStmt ← getTbStatement pg env user TbStatement.zeroed fsplan.useFbQuery
    tbSqlPrepare env tbStmt fsplan.selectSql
    let resColCnt ← tbSqlNumResultCols env tbStmt
    let columns ← describeBuffers env rel.tupdesc.length tbStmt fetchSize (List.range resColCnt)
    let w ← Proc.read
    Proc.when (fsplan.useFbQuery && !w.isolationUsesXactSnapshot)
      (tbSqlBindParameter env tbStmt 1 NUMERICOID (.tsn tbStmt.conn))
    tbSqlSetStmtAttr env tbStmt SQL_ATTR_ROW_ARRAY_SIZE fetchSize
    -- the value is the address of `tuple_cnt`
    tbSqlSetStmtAttr env tbStmt SQL_ATTR_ROWS_FETCHED_PTR 0
    Proc.forEach (List.range resColCnt) fun i => tbSqlBindCol env tbStmt (i + 1)
    setSleepOnSigOff
    pure (some
      { fsstate :=
          { tupdesc := rel.tupdesc
            query := fsplan.selectSql
            retrievedAttrs := fsplan.retrievedAttrs
            tuples := []
            fetchSize
            tupleCnt := tbFdwInitTupleCnt
            curTupleIdx := 0
            endOfFetch := false
            tbStmt := { tbStmt with resColCnt, queryExecuted := false }
            table := columns.map Prod.fst
            useFbQuery := fsplan.useFbQuery }
        buffers := columns.map Prod.snd })

namespace BufferedScan

/-- `make_tuples`. -/
def makeTuples (pg : Postgres) (attbyval : FormPgAttribute → Bool) (scan : BufferedScan) :
    Fdw BufferedScan :=
  match formTuplesInPlace pg attbyval scan.fsstate.tupdesc scan.fsstate.retrievedAttrs
      (cellOf scan.buffers) (List.range scan.fsstate.tupleCnt.toNat)
      (List.replicate scan.fsstate.tupdesc.length Entry.unset) with
  | .ok tuples => pure { scan with fsstate := { scan.fsstate with tuples } }
  | .error e => Proc.raise e

/-- `fetch_tuples`. -/
def fetchTuples (pg : Postgres) (attbyval : FormPgAttribute → Bool) (env : Environment)
    (scan : BufferedScan) : Fdw BufferedScan := do
  let (batch, atEnd) ← tbSqlFetch env scan.fsstate.tbStmt
  match if atEnd then some scan.buffers else storeBuffers batch 0 scan.buffers with
  | none => Proc.raise accessFault
  | some buffers =>
    let fsstate := { scan.fsstate with
      tupleCnt := batch.length
      endOfFetch := scan.fsstate.endOfFetch || atEnd
      curTupleIdx := 0 }
    if fsstate.endOfFetch then pure ⟨fsstate, buffers⟩
    else makeTuples pg attbyval ⟨fsstate, buffers⟩

/-- `tiberoIterateForeignScan`. -/
def iterate (pg : Postgres) (attbyval : FormPgAttribute → Bool) (env : Environment)
    (scan : BufferedScan) : Fdw (BufferedScan × Option HeapTuple) := do
  setSleepOnSigOn
  let tbStmt ← executeUnlessExecuted env scan.fsstate.tbStmt
  let scan : BufferedScan := ⟨{ scan.fsstate with tbStmt }, scan.buffers⟩
  let fetch := if needFetchTuples scan.fsstate then scan.fetchTuples pg attbyval env else pure scan
  let scan ← fetch
  let (fsstate, slot) ← getNextTuple scan.fsstate
  setSleepOnSigOff
  pure (⟨fsstate, scan.buffers⟩, slot)

/-- `tiberoReScanForeignScan`. -/
def reScan (scan : BufferedScan) : Fdw BufferedScan := do
  let fsstate ← tiberoReScanForeignScan scan.fsstate
  pure ⟨fsstate, scan.buffers⟩

end BufferedScan

/-- `m` calls of `tiberoIterateForeignScan`, with the slots they return. -/
def BufferedScan.iterateTimes (pg : Postgres) (attbyval : FormPgAttribute → Bool)
    (env : Environment) : Nat → BufferedScan → Fdw (BufferedScan × List (Option HeapTuple))
  | 0, scan => pure (scan, [])
  | m + 1, scan => do
    let (scan, slot) ← scan.iterate pg attbyval env
    let (scan, slots) ← BufferedScan.iterateTimes pg attbyval env m scan
    pure (scan, slot :: slots)

/-- A scan, and what it has returned since it was started last. -/
structure BufferedRun where
  scan : BufferedScan
  returned : List HeapTuple
  ended : Bool

/-- A scan that has just begun. -/
def BufferedRun.start (scan : BufferedScan) : BufferedRun := ⟨scan, [], false⟩

/-- A call of the executor over the memory. -/
def ScanOp.runBuffered (pg : Postgres) (attbyval : FormPgAttribute → Bool) (env : Environment) :
    ScanOp → BufferedRun → Fdw BufferedRun
  | .iterate, run => do
    let (scan, slot) ← run.scan.iterate pg attbyval env
    match slot with
    | some tuple => pure { run with scan, returned := run.returned ++ [tuple] }
    | none => pure { run with scan, ended := true }
  | .reScan, run => do
    let scan ← run.scan.reScan
    pure (BufferedRun.start scan)

/-! ## A driver with other rows -/

/-- What columns of those widths keep of a row. -/
def cutRow (widths : List Nat) (row : Row) : Row :=
  row.mapIdx fun i value => (widths[i]?).elim value fun width => value.map (cutTo nul width)

/-- The driver delivers `f row` in the place of `row`. -/
def Environment.mapRows (f : Row → Row) (env : Environment) : Environment :=
  { env with result := fun n => (env.result n).map f }

/-- The rows of a statement are replaced. -/
def DriverStmt.mapRows (f : Row → Row) (stmt : DriverStmt) : DriverStmt :=
  { stmt with pending := stmt.pending.map f }

/-- The rows that are still to be fetched are replaced too. -/
def World.mapRows (f : Row → Row) (w : World) : World :=
  { w with stmts := fun hstmt => (w.stmts hstmt).mapRows f }

/-- The worlds differ in the rows, and the statement fetches at most `n` of them at a time. -/
structure SameButRows (f : Row → Row) (hstmt : Handle) (n : Nat) (w w' : World) : Prop where
  rows : w' = w.mapRows f
  size : (w.stmts hstmt).rowArraySize ≤ n

theorem setStmt_mapRows {f : Row → Row} {stmts : Handle → DriverStmt} {hstmt : Handle}
    {g g' : DriverStmt → DriverStmt} (h : ∀ stmt : DriverStmt, g' (stmt.mapRows f) =
      (g stmt).mapRows f) :
    setStmt (fun hstmt => (stmts hstmt).mapRows f) hstmt g' =
      fun hstmt' => (setStmt stmts hstmt g hstmt').mapRows f := by
  funext hstmt'
  rw [setStmt, setStmt]
  split_ifs
  · exact h _
  · rfl

/-- The effect of a call does not depend on the rows. -/
theorem SqlCall.effect_mapRows (f : Row → Row) (env : Environment) (n : Nat)
    (stmts : Handle → DriverStmt) (call : SqlCall) :
    call.effect (env.mapRows f) n (fun hstmt => (stmts hstmt).mapRows f) =
      fun hstmt => (call.effect env n stmts hstmt).mapRows f := by
  cases call with
  | allocHandle handleType inputHandle outputHandle =>
    cases handleType with
    | stmt =>
      simp only [SqlCall.effect]
      exact setStmt_mapRows (by intro _; rfl)
    | env | dbc => rfl
  | execDirect | prepare | execute | bindParameter =>
    simp only [SqlCall.effect]
    exact setStmt_mapRows (by intro _; rfl)
  | fetch hstmt =>
    simp only [SqlCall.effect]
    refine setStmt_mapRows fun stmt => ?_
    rw [DriverStmt.mapRows, DriverStmt.mapRows, List.map_drop]
  | setStmtAttr hstmt attr value =>
    simp only [SqlCall.effect]
    split_ifs
    · exact setStmt_mapRows (by intro _; rfl)
    · rfl
  | freeStmt hstmt option =>
    cases option with
    | close =>
      simp only [SqlCall.effect]
      exact setStmt_mapRows (by intro _; rfl)
    | drop => rfl
  | _ => rfl

section

variable {f : Row → Row} {env : Environment} {hstmt : Handle} {n : Nat}

/-- A call that leaves the number of rows alone. -/
def SqlCall.KeepsSize (call : SqlCall) : Prop :=
  ∀ (env : Environment) (n : Nat) (stmts : Handle → DriverStmt) (hstmt : Handle),
    (call.effect env n stmts hstmt).rowArraySize = (stmts hstmt).rowArraySize

theorem setStmt_keepsSize {stmts : Handle → DriverStmt} {hstmt : Handle}
    {g : DriverStmt → DriverStmt} (h : ∀ stmt, (g stmt).rowArraySize = stmt.rowArraySize)
    (hstmt' : Handle) :
    (setStmt stmts hstmt g hstmt').rowArraySize = (stmts hstmt').rowArraySize := by
  rw [setStmt]
  split_ifs
  · exact h _
  · rfl

theorem execute_keepsSize (hstmt : Handle) (params : List (Nat × Option Text)) :
    (SqlCall.execute hstmt params).KeepsSize :=
  fun _ _ _ => setStmt_keepsSize fun _ => rfl

theorem fetch_keepsSize (hstmt : Handle) : (SqlCall.fetch hstmt).KeepsSize :=
  fun _ _ _ => setStmt_keepsSize fun _ => rfl

theorem SameButRows.issued {w w' : World} (h : SameButRows f hstmt n w w') {call : SqlCall}
    (hcall : call.KeepsSize) (rc : SqlReturn) :
    SameButRows f hstmt n (w.issued env call rc) (w'.issued (env.mapRows f) call rc) := by
  obtain ⟨rfl, hsize⟩ := h
  constructor
  · rw [World.issued, World.issued, World.mapRows, World.mapRows]
    dsimp only
    split_ifs
    · rw [SqlCall.effect_mapRows]
    · rfl
  · rw [World.issued]
    dsimp only
    split_ifs
    · rw [hcall env]
      exact hsize
    · exact hsize

/-- Every call returns the same code. -/
theorem issue_refines {call : SqlCall} (hcall : call.KeepsSize) :
    Proc.Refines (SameButRows f hstmt n) (fun rc rc' => rc' = rc) (issue env call)
      (issue (env.mapRows f) call) := by
  intro w w' h
  have hrc : w'.nextRc (env.mapRows f) = w.nextRc env := by rw [h.rows]; rfl
  have hissued := @SameButRows.issued f env hstmt n w w' h call hcall (w.nextRc env)
  rw [issue, issue, hrc]
  exact ⟨rfl, hissued⟩

theorem modifyWorld_refines {g : World → World} (hrows : ∀ w, g (w.mapRows f) = (g w).mapRows f)
    (hstmts : ∀ w, (g w).stmts = w.stmts) :
    Proc.Refines (SameButRows f hstmt n) (fun _ _ => True) (Proc.modify g : Fdw Unit)
      (Proc.modify g) := by
  refine Proc.Refines.modify fun w w' h => ?_
  obtain ⟨rfl, hsize⟩ := h
  exact ⟨hrows w, by rw [hstmts]; exact hsize⟩

theorem dropConnection_refines (key : ConnCacheKey) :
    Proc.Refines (SameButRows f hstmt n) (fun _ _ => True) (dropConnection env key)
      (dropConnection (env.mapRows f) key) := by
  refine Proc.Refines.read_bind fun w w' h => ?_
  have hconn : w'.conn key = w.conn key := by rw [h.rows]; rfl
  rw [hconn]
  have hdrop : Proc.Refines (SameButRows f hstmt n) (fun _ _ => True)
      (do
        modifyConn key fun c => { c with beginRemoteXact := false, connected := false }
        let _ ← issue env (.disconnect (w.conn key).hdbc)
        let _ ← issue env (.freeHandle .dbc (w.conn key).hdbc)
        let _ ← issue env (.freeHandle .env (w.conn key).henv))
      (do
        modifyConn key fun c => { c with beginRemoteXact := false, connected := false }
        let _ ← issue (env.mapRows f) (.disconnect (w.conn key).hdbc)
        let _ ← issue (env.mapRows f) (.freeHandle .dbc (w.conn key).hdbc)
        let _ ← issue (env.mapRows f) (.freeHandle .env (w.conn key).henv)) := by
    refine (modifyWorld_refines (by intro _; rfl) (by intro _; rfl)).bind fun _ _ _ => ?_
    refine (issue_refines fun _ _ _ _ => rfl).bind fun _ _ _ => ?_
    refine (issue_refines fun _ _ _ _ => rfl).bind fun _ _ _ => ?_
    exact (issue_refines fun _ _ _ _ => rfl).bind fun _ _ _ => Proc.Refines.pure trivial
  exact hdrop.when w w' h

theorem checkReturn_refines (key : ConnCacheKey) (sqlerrcode : SqlState) (rc : SqlReturn) :
    Proc.Refines (SameButRows f hstmt n) (fun _ _ => True) (checkReturn env key sqlerrcode rc)
      (checkReturn (env.mapRows f) key sqlerrcode rc) := by
  rw [checkReturn, checkReturn]
  split_ifs
  · exact Proc.Refines.pure trivial
  · exact (dropConnection_refines key).bind fun _ _ _ => Proc.Refines.raise _

theorem executeUnlessExecuted_refines (tbStmt : TbStatement) :
    Proc.Refines (SameButRows f hstmt n)
      (fun stmt stmt' => stmt' = stmt ∧ stmt.hstmt = tbStmt.hstmt)
      (executeUnlessExecuted env tbStmt) (executeUnlessExecuted (env.mapRows f) tbStmt) := by
  rw [executeUnlessExecuted, executeUnlessExecuted]
  split_ifs
  · exact Proc.Refines.pure ⟨rfl, rfl⟩
  · have hexecute : Proc.Refines (SameButRows f hstmt n) (fun rc rc' => rc' = rc)
        (sqlExecute env tbStmt.hstmt) (sqlExecute (env.mapRows f) tbStmt.hstmt) := by
      refine Proc.Refines.read_bind fun w w' h => ?_
      have hparams : w'.paramValues tbStmt.hstmt = w.paramValues tbStmt.hstmt := by
        rw [h.rows]; rfl
      rw [hparams]
      exact issue_refines (execute_keepsSize _ _) w w' h
    refine hexecute.bind fun rc rc' hrc => ?_
    subst hrc
    exact (checkReturn_refines _ _ _).bind fun _ _ _ => Proc.Refines.pure ⟨rfl, rfl⟩

/-- A fetch delivers the other rows, in the same batches. -/
theorem tbSqlFetch_refines {tbStmt : TbStatement} (hstmt_eq : tbStmt.hstmt = hstmt) :
    Proc.Refines (SameButRows f hstmt n)
      (fun r r' => r' = (r.1.map f, r.2) ∧ r.1.length ≤ n)
      (tbSqlFetch env tbStmt) (tbSqlFetch (env.mapRows f) tbStmt) := by
  have hfetch : Proc.Refines (SameButRows f hstmt n)
      (fun r r' => r' = (r.1, r.2.map f) ∧ r.2.length ≤ n)
      (sqlFetch env tbStmt.hstmt) (sqlFetch (env.mapRows f) tbStmt.hstmt) := by
    intro w w' h
    have hrc : w'.nextRc (env.mapRows f) = w.nextRc env := by rw [h.rows]; rfl
    have hbatch : (w'.stmts tbStmt.hstmt).pending.take (w'.stmts tbStmt.hstmt).rowArraySize =
        ((w.stmts tbStmt.hstmt).pending.take (w.stmts tbStmt.hstmt).rowArraySize).map f := by
      rw [h.rows, List.map_take]
      rfl
    have hlen : ((w.stmts tbStmt.hstmt).pending.take
        (w.stmts tbStmt.hstmt).rowArraySize).length ≤ n := by
      rw [hstmt_eq]
      exact Nat.le_trans (List.length_take_le ..) h.size
    have hissued := @SameButRows.issued f env hstmt n w w' h _ (fetch_keepsSize tbStmt.hstmt)
    rw [sqlFetch, sqlFetch, hrc, hbatch, List.isEmpty_map]
    split_ifs
    · exact ⟨⟨rfl, Nat.zero_le n⟩, hissued _⟩
    · exact ⟨⟨rfl, Nat.zero_le n⟩, hissued _⟩
    · exact ⟨⟨rfl, hlen⟩, hissued _⟩
  refine hfetch.bind fun r r' hr => ?_
  obtain ⟨rfl, hlen⟩ := hr
  dsimp only
  split_ifs
  · exact Proc.Refines.pure ⟨rfl, hlen⟩
  · exact (checkReturn_refines _ _ _).bind fun _ _ _ => Proc.Refines.pure ⟨rfl, hlen⟩

end

/-! ## One call -/

/-- The scan in memory and that of `Scan` are in the same state. -/
structure Mirrors (hstmt : Handle) (n : Nat) (widths : List Nat) (scan : BufferedScan)
    (fsstate : TbFdwScanState) : Prop where
  fields : fsstate = { scan.fsstate with table := fsstate.table }
  columns : fsstate.table.length = widths.length
  hstmt : scan.fsstate.tbStmt.hstmt = hstmt
  sized : ∀ buffer ∈ scan.buffers, buffer.Sized n
  widths : scan.buffers.map ColumnBuffer.colSize = widths

section

variable {pg : Postgres} {attbyval : FormPgAttribute → Bool} {env : Environment} {hstmt : Handle}
  {n : Nat} {widths : List Nat} {scan : BufferedScan} {fsstate : TbFdwScanState}

/-- The strings that `Scan` keeps are those in the buffers. -/
theorem cellOf_eq {batch : List Row} {buffers buffers' : List ColumnBuffer}
    (hwidths : buffers.map ColumnBuffer.colSize = widths)
    (hcolumns : fsstate.table.length = widths.length)
    (hcells : ∀ i row, batch[i]? = some row → ∀ attid,
      cellOf buffers' i attid = (buffers[attid]?).elim (.error indexFault) fun buffer =>
        .ok ((row[0 + attid]?).join.map (cutTo nul buffer.colSize)))
    {i : Nat} (hi : i < batch.length) (attid : Nat) :
    cellOf buffers' i attid =
      (TbFdwScanState.cell { fsstate with
          table := storeBatch (batch.map (cutRow widths)) fsstate.table } i attid).elim
        (.error indexFault) .ok := by
  have hlen := congrArg List.length hwidths
  rw [List.length_map] at hlen
  rw [hcells i batch[i] (List.getElem?_eq_getElem hi) attid, Nat.zero_add, TbFdwScanState.cell,
    storeBatch, List.getElem?_mapIdx]
  by_cases hatt : attid < buffers.length
  · -- the cell of a column
    have hwidth : widths[attid]? = some (buffers[attid]).colSize := by
      rw [← hwidths, List.getElem?_map, List.getElem?_eq_getElem hatt, Option.map_some]
    have hrow : ((cutRow widths batch[i])[attid]?).join =
        ((batch[i])[attid]?).join.map (cutTo nul (buffers[attid]).colSize) := by
      rw [cutRow, List.getElem?_mapIdx]
      rcases (batch[i])[attid]? with _ | value
      · rfl
      · rw [Option.map_some, hwidth]
        rfl
    have hcolumn : attid < fsstate.table.length := by omega
    rw [List.getElem?_eq_getElem hatt, List.getElem?_eq_getElem hcolumn, Option.map_some,
      Option.bind_some, List.getElem?_map, List.getElem?_map, List.getElem?_eq_getElem hi,
      Option.map_some, Option.map_some, hrow]
    rfl
  · have hcolumn : fsstate.table.length ≤ attid := by omega
    rw [List.getElem?_eq_none (Nat.le_of_not_lt hatt), List.getElem?_eq_none hcolumn]
    rfl

/-- **One batch**: what the driver wrote is what `make_tuples` makes of it, cut to the columns. -/
theorem fetchTuples_refines (h : Mirrors hstmt n widths scan fsstate) :
    Proc.Refines (SameButRows (cutRow widths) hstmt n) (Mirrors hstmt n widths)
      (scan.fetchTuples pg attbyval env)
      (fetchTuples pg (env.mapRows (cutRow widths)) fsstate) := by
  have htbStmt : fsstate.tbStmt = scan.fsstate.tbStmt := by rw [h.fields]
  have hend : fsstate.endOfFetch = scan.fsstate.endOfFetch := by rw [h.fields]
  rw [BufferedScan.fetchTuples, fetchTuples, htbStmt]
  refine (tbSqlFetch_refines h.hstmt).bind fun r r' hr => ?_
  obtain ⟨batch, atEnd⟩ := r
  obtain ⟨rfl, hlen⟩ := hr
  dsimp only at hlen ⊢
  rw [hend, List.length_map]
  cases atEnd with
  | true =>
    rw [if_pos rfl, if_pos rfl, Bool.or_true, if_pos rfl]
    dsimp only
    refine Proc.Refines.pure ⟨?_, h.columns, h.hstmt, h.sized, h.widths⟩
    rw [h.fields]
  | false =>
    obtain ⟨buffers, hstore, hsized, hwidths, hcells⟩ :=
      storeBuffers_ok (k := 0) hlen h.sized
    rw [if_neg Bool.false_ne_true, if_neg Bool.false_ne_true, hstore, Bool.or_false]
    dsimp only
    have hcolumns : (storeBatch (batch.map (cutRow widths)) fsstate.table).length =
        widths.length := (List.length_mapIdx ..).trans h.columns
    split_ifs with hmore
    · refine Proc.Refines.pure ⟨?_, hcolumns, h.hstmt, hsized, hwidths.trans h.widths⟩
      rw [h.fields]
    · -- the tuples of the batch
      rw [BufferedScan.makeTuples, makeTuples]
      dsimp only
      have hforms := @formTuplesInPlace_eq pg attbyval
        { fsstate with
          table := storeBatch (batch.map (cutRow widths)) fsstate.table
          tupleCnt := batch.length
          endOfFetch := scan.fsstate.endOfFetch
          curTupleIdx := 0 }
        (cellOf buffers) (List.range batch.length) _
        (fun i hi attid => cellOf_eq h.widths h.columns hcells (List.mem_range.mp hi) attid)
        (Ready.start _)
      rw [h.fields] at hforms
      rw [Int.toNat_natCast, h.fields]
      dsimp only at hforms ⊢
      rw [hforms]
      rcases formTuples pg _ (List.range batch.length) with e | tuples
      · exact Proc.Refines.raise e
      · exact Proc.Refines.pure ⟨rfl, hcolumns, h.hstmt, hsized, hwidths.trans h.widths⟩

theorem getNextTuple_refines (h : Mirrors hstmt n widths scan fsstate) :
    Proc.Refines (SameButRows (cutRow widths) hstmt n)
      (fun r r' => Mirrors hstmt n widths ⟨r.1, scan.buffers⟩ r'.1 ∧ r'.2 = r.2)
      (getNextTuple scan.fsstate) (getNextTuple fsstate) := by
  obtain ⟨hfields, hcolumns, hhstmt, hsized, hwidths⟩ := h
  rw [getNextTuple, getNextTuple, hfields]
  dsimp only
  split_ifs
  · exact Proc.Refines.pure ⟨⟨rfl, hcolumns, hhstmt, hsized, hwidths⟩, rfl⟩
  · rcases scan.fsstate.tuples[scan.fsstate.curTupleIdx]? with _ | tuple
    · exact Proc.Refines.raise _
    · exact Proc.Refines.pure ⟨⟨rfl, hcolumns, hhstmt, hsized, hwidths⟩, rfl⟩

theorem setSleepOnSigOn_refines :
    Proc.Refines (SameButRows (cutRow widths) hstmt n) (fun _ _ => True) setSleepOnSigOn
      setSleepOnSigOn :=
  modifyWorld_refines (by intro _; rfl) (by intro _; rfl)

theorem setSleepOnSigOff_refines :
    Proc.Refines (SameButRows (cutRow widths) hstmt n) (fun _ _ => True) setSleepOnSigOff
      setSleepOnSigOff :=
  modifyWorld_refines (by intro _; rfl) (by intro _; rfl)

/-- **One call** of `tiberoIterateForeignScan`. -/
theorem iterate_refines (h : Mirrors hstmt n widths scan fsstate) :
    Proc.Refines (SameButRows (cutRow widths) hstmt n)
      (fun r r' => Mirrors hstmt n widths r.1 r'.1 ∧ r'.2 = r.2)
      (scan.iterate pg attbyval env)
      (tiberoIterateForeignScan pg (env.mapRows (cutRow widths)) fsstate) := by
  have htbStmt : fsstate.tbStmt = scan.fsstate.tbStmt := by rw [h.fields]
  rw [BufferedScan.iterate, tiberoIterateForeignScan, htbStmt]
  refine setSleepOnSigOn_refines.bind fun _ _ _ => ?_
  refine (executeUnlessExecuted_refines scan.fsstate.tbStmt).bind fun tbStmt tbStmt' hexec => ?_
  obtain ⟨rfl, hhstmt⟩ := hexec
  have h₁ : Mirrors hstmt n widths ⟨{ scan.fsstate with tbStmt := tbStmt' }, scan.buffers⟩
      { fsstate with tbStmt := tbStmt' } :=
    ⟨by rw [h.fields], h.columns, hhstmt.trans h.hstmt, h.sized, h.widths⟩
  have hneed : needFetchTuples { fsstate with tbStmt := tbStmt' } =
      needFetchTuples { scan.fsstate with tbStmt := tbStmt' } := by rw [h.fields]; rfl
  have hfetch : Proc.Refines (SameButRows (cutRow widths) hstmt n) (Mirrors hstmt n widths)
      (if needFetchTuples { scan.fsstate with tbStmt := tbStmt' } = true then
        BufferedScan.fetchTuples pg attbyval env
          ⟨{ scan.fsstate with tbStmt := tbStmt' }, scan.buffers⟩
      else pure ⟨{ scan.fsstate with tbStmt := tbStmt' }, scan.buffers⟩)
      (if needFetchTuples { fsstate with tbStmt := tbStmt' } = true then
        fetchTuples pg (env.mapRows (cutRow widths)) { fsstate with tbStmt := tbStmt' }
      else pure { fsstate with tbStmt := tbStmt' }) := by
    rw [hneed]
    split_ifs
    · exact fetchTuples_refines h₁
    · exact Proc.Refines.pure h₁
  refine hfetch.bind fun scan' fsstate' h' => ?_
  refine (getNextTuple_refines h').bind fun r r' hr => ?_
  exact setSleepOnSigOff_refines.bind fun _ _ _ => Proc.Refines.pure hr

theorem reScan_refines (h : Mirrors hstmt n widths scan fsstate) :
    Proc.Refines (SameButRows (cutRow widths) hstmt n) (Mirrors hstmt n widths) scan.reScan
      (tiberoReScanForeignScan fsstate) := by
  obtain ⟨hfields, hcolumns, hhstmt, hsized, hwidths⟩ := h
  have hrescan : Proc.Refines (SameButRows (cutRow widths) hstmt n)
      (fun fsstate₁ fsstate₁' => Mirrors hstmt n widths ⟨fsstate₁, scan.buffers⟩ fsstate₁')
      (tiberoReScanForeignScan scan.fsstate) (tiberoReScanForeignScan fsstate) := by
    refine setSleepOnSigOn_refines.bind fun _ _ _ => ?_
    refine setSleepOnSigOff_refines.bind fun _ _ _ => Proc.Refines.pure ?_
    exact ⟨by rw [hfields], hcolumns, hhstmt, hsized, hwidths⟩
  -- the buffers stay as they are
  intro w w' hw
  have hboth := hrescan w w' hw
  rcases hs : tiberoReScanForeignScan scan.fsstate w with ⟨fsstate₁, w₁⟩ | ⟨e, w₁⟩ <;>
    rw [hs] at hboth
  · rw [BufferedScan.reScan, Proc.bind_of_ok hs]
    exact hboth
  · rw [BufferedScan.reScan, Proc.bind_of_raise hs]
    exact hboth

/-! ## Runs -/

theorem iterateTimes_refines (h : Mirrors hstmt n widths scan fsstate) (m : Nat) :
    Proc.Refines (SameButRows (cutRow widths) hstmt n) (fun r r' => r'.2 = r.2)
      (BufferedScan.iterateTimes pg attbyval env m scan)
      (iterateTimes pg (env.mapRows (cutRow widths)) m fsstate) := by
  induction m generalizing scan fsstate with
  | zero => exact Proc.Refines.pure rfl
  | succ m ih =>
    refine (iterate_refines h).bind fun r r' hr => ?_
    refine (ih hr.1).bind fun r₁ r₁' hr₁ => Proc.Refines.pure ?_
    exact congrArg₂ List.cons hr.2 hr₁

/-- The runs stand at the same place, and have returned the same tuples. -/
structure RunMirrors (hstmt : Handle) (n : Nat) (widths : List Nat) (run : BufferedRun)
    (run' : ScanRun) : Prop where
  scan : Mirrors hstmt n widths run.scan run'.fsstate
  returned : run'.returned = run.returned
  ended : run'.ended = run.ended

theorem runBuffered_refines {run : BufferedRun} {run' : ScanRun}
    (h : RunMirrors hstmt n widths run run') (op : ScanOp) :
    Proc.Refines (SameButRows (cutRow widths) hstmt n) (RunMirrors hstmt n widths)
      (op.runBuffered pg attbyval env run) (op.run pg (env.mapRows (cutRow widths)) run') := by
  cases op with
  | iterate =>
    refine (iterate_refines h.scan).bind fun r r' hr => ?_
    obtain ⟨scan, slot⟩ := r
    obtain ⟨fsstate, slot'⟩ := r'
    obtain ⟨hscan, hslot⟩ := hr
    dsimp only at hslot
    subst hslot
    rcases slot' with _ | tuple
    · exact Proc.Refines.pure ⟨hscan, h.returned, rfl⟩
    · exact Proc.Refines.pure ⟨hscan, congrArg (· ++ [tuple]) h.returned, h.ended⟩
  | reScan =>
    exact (reScan_refines h.scan).bind fun scan fsstate hscan =>
      Proc.Refines.pure ⟨hscan, rfl, rfl⟩

end

/-! ## Errors of a scan without memory -/

section

variable {pg : Postgres} {env : Environment} {key : ConnCacheKey}

theorem issue_raisesOnly {E : PgError → Prop} (call : SqlCall) :
    Proc.RaisesOnly E (issue env call) := by
  intro w e w' h
  cases h

/-- What a wrapper reports is no fault. -/
theorem checkReturn_noFault {sqlerrcode : SqlState} (hcode : sqlerrcode ≠ .internalError)
    (rc : SqlReturn) : Proc.RaisesOnly (· ≠ accessFault) (checkReturn env key sqlerrcode rc) := by
  intro w e w' h
  rw [checkReturn] at h
  split_ifs at h
  · cases h
  · obtain ⟨w₁, hraise⟩ := tbFdwReportError_raises env w key sqlerrcode (returnCodeMessage rc)
    rw [hraise] at h
    cases h
    exact fun hfault => hcode (congrArg PgError.sqlerrcode hfault)

theorem executeUnlessExecuted_noFault (tbStmt : TbStatement) :
    Proc.RaisesOnly (· ≠ accessFault) (executeUnlessExecuted env tbStmt) := by
  rw [executeUnlessExecuted]
  split_ifs
  · exact Proc.RaisesOnly.pure _
  · refine Proc.RaisesOnly.bind (Proc.RaisesOnly.read_bind fun w => issue_raisesOnly _) fun rc => ?_
    exact Proc.RaisesOnly.bind (checkReturn_noFault (by decide) rc) fun _ => Proc.RaisesOnly.pure _

theorem tbSqlFetch_noFault (tbStmt : TbStatement) :
    Proc.RaisesOnly (· ≠ accessFault) (tbSqlFetch env tbStmt) := by
  have hfetch : Proc.RaisesOnly (· ≠ accessFault) (sqlFetch env tbStmt.hstmt) := by
    intro w e w' h
    rw [sqlFetch] at h
    split_ifs at h
  refine Proc.RaisesOnly.bind hfetch fun r => ?_
  dsimp only
  split_ifs
  · exact Proc.RaisesOnly.pure _
  · exact Proc.RaisesOnly.bind (checkReturn_noFault (by decide) _) fun _ => Proc.RaisesOnly.pure _

theorem fillValues_noFault {tupdesc : TupleDesc} {cell : Nat → Option (Option Text)} {e : PgError}
    {attrs : List Int} {attid : Nat} {dvalues : HeapTuple}
    (h : fillValues pg tupdesc cell attrs attid dvalues = .error e) : e ≠ accessFault := by
  fun_induction fillValues pg tupdesc cell attrs attid dvalues with
  | case1 => cases h
  -- a null, and a value that is converted
  | case2 attnum rest attid dvalues hpos val hcell hattr ih => exact ih h
  | case3 attnum rest attid dvalues hpos attr value hcell hattr datum hdatum ih => exact ih h
  | _ =>
    cases h
    decide

theorem formTuples_noFault {fsstate : TbFdwScanState} {l : List Nat} {e : PgError}
    (h : formTuples pg fsstate l = .error e) : e ≠ accessFault := by
  induction l with
  | nil => cases h
  | cons i rest ih =>
    rw [formTuples] at h
    rcases hform : heapFormTuple pg fsstate.tupdesc fsstate.retrievedAttrs (fsstate.cell i) with
      e' | tuple <;> rw [hform] at h
    · cases h
      exact fillValues_noFault hform
    · rcases hrest : formTuples pg fsstate rest with e' | tuples <;> rw [hrest] at h <;> cases h
      exact ih hrest

theorem makeTuples_noFault (fsstate : TbFdwScanState) :
    Proc.RaisesOnly (· ≠ accessFault) (makeTuples pg fsstate) := by
  intro w e w' h
  rw [makeTuples] at h
  rcases hform : formTuples pg fsstate (List.range fsstate.tupleCnt.toNat) with e' | tuples <;>
    rw [hform] at h <;> cases h
  exact formTuples_noFault hform

theorem fetchTuples_noFault (fsstate : TbFdwScanState) :
    Proc.RaisesOnly (· ≠ accessFault) (fetchTuples pg env fsstate) := by
  refine Proc.RaisesOnly.bind (tbSqlFetch_noFault _) fun r => ?_
  obtain ⟨batch, atEnd⟩ := r
  dsimp only
  by_cases hend : (fsstate.endOfFetch || atEnd) = true
  · rw [if_pos hend]
    exact Proc.RaisesOnly.pure _
  · rw [if_neg hend]
    exact makeTuples_noFault _

theorem tiberoIterateForeignScan_noFault (fsstate : TbFdwScanState) :
    Proc.RaisesOnly (· ≠ accessFault) (tiberoIterateForeignScan pg env fsstate) := by
  refine Proc.RaisesOnly.bind (Proc.RaisesOnly.modify _) fun _ => ?_
  refine Proc.RaisesOnly.bind (executeUnlessExecuted_noFault _) fun tbStmt => ?_
  refine Proc.RaisesOnly.bind ?_ fun fsstate => Proc.RaisesOnly.bind ?_ fun _ =>
    Proc.RaisesOnly.bind (Proc.RaisesOnly.modify _) fun _ => Proc.RaisesOnly.pure _
  · split_ifs
    · exact fetchTuples_noFault _
    · exact Proc.RaisesOnly.pure _
  · intro w e w' h
    rw [getNextTuple] at h
    split_ifs at h
    · cases h
    · rcases htuple : fsstate.tuples[fsstate.curTupleIdx]? with _ | tuple <;>
        rw [htuple] at h <;> cases h
      decide

theorem ScanOp.run_noFault (op : ScanOp) (run : ScanRun) :
    Proc.RaisesOnly (· ≠ accessFault) (op.run pg env run) := by
  cases op with
  | iterate =>
    refine Proc.RaisesOnly.bind (tiberoIterateForeignScan_noFault _) fun r => ?_
    obtain ⟨fsstate, _ | tuple⟩ := r <;> exact Proc.RaisesOnly.pure _
  | reScan =>
    refine Proc.RaisesOnly.bind ?_ fun _ => Proc.RaisesOnly.pure _
    exact Proc.RaisesOnly.bind (Proc.RaisesOnly.modify _) fun _ =>
      Proc.RaisesOnly.bind (Proc.RaisesOnly.modify _) fun _ => Proc.RaisesOnly.pure _

end

/-! ## Beginning -/

/-- The sizes that the driver reports are of 31 bits. -/
def Environment.SmallColumns (env : Environment) : Prop :=
  ∀ sql, ∀ column ∈ env.describe sql, column.2 < 0x80000000

/-- A bound of the results of a chain of cases. -/
theorem ite_some_le {c : Prop} [Decidable c] {a bound : Nat} {rest : Option Nat} (ha : a ≤ bound)
    (hrest : ∀ size ∈ rest, size ≤ bound) :
    ∀ size ∈ (if c then some a else rest), size ≤ bound := by
  intro size hsize
  by_cases hc : c
  · rw [if_pos hc, Option.mem_some_iff] at hsize
    exact hsize ▸ ha
  · rw [if_neg hc] at hsize
    exact hrest size hsize

/-- A size is bounded by the one that was reported, or it is one of the constants. -/
theorem maxStrSize_le {type : Int} {colSize size : Nat} (h : maxStrSize type colSize = some size) :
    size ≤ 2 * colSize + 65532 := by
  have hnone : ∀ size ∈ (none : Option Nat), size ≤ 2 * colSize + 65532 := by
    intro size hsize
    cases hsize
  have hor : ∀ n, (if 0 < colSize then colSize else n) ≤ colSize + n := by
    intro n
    split_ifs <;> omega
  have hchar := hor TB_CHAR_SIZE_MAX
  have hvarchar := hor TB_VARCHAR2_SIZE_MAX
  have hraw := hor TB_RAW_SIZE_MAX
  refine ite_some_le ?_ (ite_some_le ?_ (ite_some_le ?_ (ite_some_le ?_ (ite_some_le ?_
    (ite_some_le ?_ (ite_some_le ?_ (ite_some_le ?_ (ite_some_le ?_ (ite_some_le ?_
    (ite_some_le ?_ hnone)))))))))) size h
  all_goals
    simp only [NUMBER_MAX_STRING, TB_CHAR_SIZE_MAX, TB_VARCHAR2_SIZE_MAX, TB_RAW_SIZE_MAX,
      NLS_DATETIME_FORMAT_SIZE, TB_TIME_MAX_STR_SIZE, TB_ITV_YTM_MAX_STR_SIZE,
      TB_ITV_DTS_MAX_STR_SIZE, EROWID_SIZE] at hchar hvarchar hraw ⊢
    omega

section

variable {pg : Postgres} {attbyval : FormPgAttribute → Bool} {env : Environment} {w w' : World}

theorem palloc0_ok {size bytes : Nat} (h : palloc0 size w = .ok bytes w') :
    bytes = size % 0x10000000000000000 ∧ w' = w := by
  rw [palloc0] at h
  split_ifs at h
  · cases h
  · cases h
    exact ⟨rfl, rfl⟩

/-- A column has room for the terminator, and its size is bounded. -/
theorem getTbTypeMaxStrSize_le {key : ConnCacheKey} {type : Int} {colSize size : Nat}
    (hsize : colSize < 0x80000000) (h : getTbTypeMaxStrSize env key type colSize w = .ok size w') :
    0 < size ∧ size ≤ 0x100010000 := by
  rw [getTbTypeMaxStrSize] at h
  rcases hmax : maxStrSize type colSize with _ | res <;> rw [hmax] at h
  · obtain ⟨_, _, hreport, -⟩ := Proc.bind_eq_ok.mp h
    obtain ⟨_, hraise⟩ := tbFdwReportError_raises env w key .fdwError
      ("tbcli datatype error (" ++ toString type ++ ")")
    rw [hraise] at hreport
    cases hreport
  · cases h
    have hle := maxStrSize_le hmax
    exact ⟨Nat.succ_pos _, by omega⟩

theorem tbSqlDescribeCol_size (hsmall : env.SmallColumns) {tbStmt : TbStatement} {colNo : Nat}
    {r : Int × Nat} (h : tbSqlDescribeCol env tbStmt colNo w = .ok r w') :
    0 < r.2 ∧ r.2 ≤ 0x100010000 := by
  rw [tbSqlDescribeCol, Proc.read_bind_run] at h
  obtain ⟨_, w₁, -, h⟩ := Proc.bind_eq_ok.mp h
  -- what the driver reports
  have hreported : (((env.describe (w.stmts tbStmt.hstmt).prepared)[colNo - 1]?).getD
      (0, 0)).2 < 0x80000000 := by
    rcases hcol : (env.describe (w.stmts tbStmt.hstmt).prepared)[colNo - 1]? with _ | column
    · decide
    · exact hsmall _ column (List.mem_of_getElem? hcol)
  obtain ⟨size, w₂, hsize, h⟩ := Proc.bind_eq_ok.mp h
  have hle := getTbTypeMaxStrSize_le hreported hsize
  cases h
  exact hle

/-- The columns are described as without their memory, each has the memory for a batch, and the
array has an element for each. -/
theorem describeBuffers_ok (hsmall : env.SmallColumns) {natts : Nat} {tbStmt : TbStatement}
    {fetchSize : Nat} (hfetch : fetchSize ≤ 0x7fffffff) {l : List Nat}
    {columns : List (TbColumn × ColumnBuffer)}
    (h : describeBuffers env natts tbStmt fetchSize l w = .ok columns w') :
    describeColumns env tbStmt l w = .ok (columns.map Prod.fst) w' ∧
      (∀ i ∈ l, i < natts) ∧
      (∀ buffer ∈ columns.map Prod.snd, buffer.Sized fetchSize) ∧
      (columns.map Prod.snd).map ColumnBuffer.colSize =
        (columns.map Prod.fst).map TbColumn.colSize := by
  induction l generalizing w columns with
  | nil =>
    cases h
    exact ⟨rfl, List.forall_mem_nil _, List.forall_mem_nil _, rfl⟩
  | cons i rest ih =>
    rw [describeBuffers] at h
    split_ifs at h with hnatts
    · cases h
    obtain ⟨r, w₁, hdescribe, h⟩ := Proc.bind_eq_ok.mp h
    obtain ⟨data, w₂, hdata, h⟩ := Proc.bind_eq_ok.mp h
    obtain ⟨ind, w₃, hind, h⟩ := Proc.bind_eq_ok.mp h
    obtain ⟨columns', w₄, hrest, h⟩ := Proc.bind_eq_ok.mp h
    cases h
    obtain ⟨rfl, rfl⟩ := palloc0_ok hdata
    obtain ⟨rfl, rfl⟩ := palloc0_ok hind
    obtain ⟨hcolumns, hinside, hsized, hwidths⟩ := ih hrest
    obtain ⟨hpos, hle⟩ := tbSqlDescribeCol_size hsmall hdescribe
    -- no size wraps around
    have hbytes : r.2 * fetchSize ≤ 0x100010000 * 0x7fffffff := Nat.mul_le_mul hle hfetch
    have hdataSize : r.2 * fetchSize % 0x10000000000000000 = r.2 * fetchSize :=
      Nat.mod_eq_of_lt (by omega)
    have hindSize : sizeofSqllen * fetchSize % 0x10000000000000000 / sizeofSqllen =
        fetchSize := by
      rw [sizeofSqllen]
      omega
    refine ⟨?_, List.forall_mem_cons.mpr ⟨Nat.lt_of_not_le hnatts, hinside⟩,
      List.forall_mem_cons.mpr ⟨⟨hpos, ?_, ?_⟩, hsized⟩, congrArg (r.2 :: ·) hwidths⟩
    · exact Proc.bind_eq_ok.mpr ⟨r, _, hdescribe,
        Proc.bind_eq_ok.mpr ⟨_, _, hcolumns, rfl⟩⟩
    · change (List.replicate _ nul).length = _
      rw [List.length_replicate, hdataSize]
    · change (List.replicate _ (0 : Int)).length = _
      rw [List.length_replicate, hindSize]

/-- The errors that beginning has because of its memory: a request that is too large, or a result
with more columns than the array of `natts` elements. -/
def MemoryError (natts resColCnt : Nat) (e : PgError) : Prop :=
  (∃ size, maxAllocSize < size ∧ e = invalidAllocSize size) ∨ natts < resColCnt ∧ e = accessFault

theorem palloc0_raise {size : Nat} {e : PgError} (h : palloc0 size w = .raise e w') :
    ∃ size, maxAllocSize < size ∧ e = invalidAllocSize size := by
  rw [palloc0] at h
  split_ifs at h with hsize
  · cases h
    exact ⟨_, hsize, rfl⟩
  · cases h

/-- When the columns are not described, they are not described without memory, or it is the memory
that fails. -/
theorem describeBuffers_raise {natts resColCnt : Nat} {tbStmt : TbStatement} {fetchSize : Nat}
    {l : List Nat} (hl : ∀ i ∈ l, i < resColCnt) {e : PgError}
    (h : describeBuffers env natts tbStmt fetchSize l w = .raise e w') :
    describeColumns env tbStmt l w = .raise e w' ∨ MemoryError natts resColCnt e := by
  induction l generalizing w with
  | nil => cases h
  | cons i rest ih =>
    obtain ⟨hi, hl⟩ := List.forall_mem_cons.mp hl
    rw [describeBuffers] at h
    split_ifs at h with hnatts
    · cases h
      exact .inr (.inr ⟨by omega, rfl⟩)
    rcases Proc.bind_eq_raise.mp h with hraise | ⟨r, w₁, hdescribe, h₁⟩
    · exact .inl (Proc.bind_of_raise hraise)
    rcases Proc.bind_eq_raise.mp h₁ with hraise | ⟨data, w₂, hdata, h₂⟩
    · exact .inr (.inl (palloc0_raise hraise))
    rcases Proc.bind_eq_raise.mp h₂ with hraise | ⟨ind, w₃, hind, h₃⟩
    · exact .inr (.inl (palloc0_raise hraise))
    obtain ⟨-, rfl⟩ := palloc0_ok hdata
    obtain ⟨-, rfl⟩ := palloc0_ok hind
    rcases Proc.bind_eq_raise.mp h₃ with hraise | ⟨columns, w₄, -, hpure⟩
    · -- a later column
      refine (ih hl hraise).imp_left fun hrest => ?_
      exact Proc.bind_eq_raise.mpr (.inr ⟨r, _, hdescribe, Proc.bind_of_raise hrest⟩)
    · cases hpure

/-- A fetch size that an option or its default may give. -/
def FetchSizeOk (fsplan : ForeignScan) : Prop :=
  1 ≤ fsplan.fetchSize ∧ fsplan.fetchSize ≤ tbFdwMaxFetchSize - 1

instance (fsplan : ForeignScan) : Decidable (FetchSizeOk fsplan) :=
  inferInstanceAs (Decidable (_ ∧ _))

/-- The widths of the columns of a scan. -/
def TbFdwScanState.widths (fsstate : TbFdwScanState) : List Nat :=
  fsstate.table.map TbColumn.colSize

/-- The scan begins as without its memory, and no batch is larger than its buffers. -/
theorem beginBufferedScan_ok (hsmall : env.SmallColumns) {rel : Relation} {user : UserMapping}
    {fsplan : ForeignScan} (hfetch : FetchSizeOk fsplan) {scan : BufferedScan}
    (h : beginBufferedScan pg env rel user false fsplan w = .ok (some scan) w') :
    tiberoBeginForeignScan pg env rel user false fsplan w = .ok (some scan.fsstate) w' ∧
      scan.fsstate.table.length ≤ rel.tupdesc.length ∧
      (w'.stmts scan.fsstate.tbStmt.hstmt).rowArraySize = scan.fsstate.fetchSize ∧
      Mirrors scan.fsstate.tbStmt.hstmt scan.fsstate.fetchSize scan.fsstate.widths scan
        scan.fsstate := by
  have hsize : (fsplan.fetchSize % 0x10000000000000000).toNat ≤ 0x7fffffff := by
    obtain ⟨hpos, hmax⟩ := hfetch
    rw [tbFdwMaxFetchSize] at hmax
    omega
  rw [beginBufferedScan, if_neg Bool.false_ne_true, setSleepOnSigOn, Proc.modify_bind_run] at h
  rw [tiberoBeginForeignScan, if_neg Bool.false_ne_true, setSleepOnSigOn, Proc.modify_bind_run]
  obtain ⟨tbStmt, w₁, hstmt, h⟩ := Proc.bind_eq_ok.mp h
  obtain ⟨_, w₂, hprepare, h⟩ := Proc.bind_eq_ok.mp h
  obtain ⟨resColCnt, w₃, hcount, h⟩ := Proc.bind_eq_ok.mp h
  obtain ⟨columns, w₄, hdescribe, h⟩ := Proc.bind_eq_ok.mp h
  rw [Proc.read_bind_run] at h
  obtain ⟨_, w₅, hbind, h⟩ := Proc.bind_eq_ok.mp h
  obtain ⟨_, w₆, hrows, h⟩ := Proc.bind_eq_ok.mp h
  obtain ⟨_, w₇, hptr, h⟩ := Proc.bind_eq_ok.mp h
  obtain ⟨_, w₈, hcols, h⟩ := Proc.bind_eq_ok.mp h
  cases h
  obtain ⟨hcolumns, hinside, hsized, hwidths⟩ := describeBuffers_ok hsmall hsize hdescribe
  refine ⟨?_, ?_, ?_, rfl, ?_, rfl, hsized, hwidths⟩
  · rw [Proc.bind_of_ok hstmt, Proc.bind_of_ok hprepare, Proc.bind_of_ok hcount,
      Proc.bind_of_ok hcolumns, Proc.read_bind_run, Proc.bind_of_ok hbind,
      Proc.bind_of_ok hrows, Proc.bind_of_ok hptr, Proc.bind_of_ok hcols]
    rfl
  · change (columns.map Prod.fst).length ≤ _
    rw [describeColumns_length hcolumns, List.length_range]
    -- the last column that was described is in the array
    rcases resColCnt with _ | n
    · exact Nat.zero_le _
    · exact hinside n (List.mem_range.mpr n.lt_succ_self)
  · obtain ⟨hrc₆, rfl⟩ := tbCall_eq_ok.mp hrows
    obtain ⟨hrc₇, rfl⟩ := tbCall_eq_ok.mp hptr
    change (w₈.stmts tbStmt.hstmt).rowArraySize = _
    rw [bindCols_ok hcols, World.called_stmts hrc₇]
    change ((w₅.called env (.setStmtAttr tbStmt.hstmt SQL_ATTR_ROW_ARRAY_SIZE _)).stmts
      tbStmt.hstmt).rowArraySize = _
    rw [World.called_stmts hrc₆]
    simp [SqlCall.effect, setStmt]
  · exact (List.length_map _).symm

/-- When the scan does not begin, it does not begin without its memory, or it is the memory that
fails. -/
theorem beginBufferedScan_raise (hsmall : env.SmallColumns) {rel : Relation} {user : UserMapping}
    {fsplan : ForeignScan} (hfetch : FetchSizeOk fsplan) {e : PgError}
    (h : beginBufferedScan pg env rel user false fsplan w = .raise e w') :
    tiberoBeginForeignScan pg env rel user false fsplan w = .raise e w' ∨
      MemoryError rel.tupdesc.length (env.describe fsplan.selectSql).length e := by
  have hsize : (fsplan.fetchSize % 0x10000000000000000).toNat ≤ 0x7fffffff := by
    obtain ⟨hpos, hmax⟩ := hfetch
    rw [tbFdwMaxFetchSize] at hmax
    omega
  rw [beginBufferedScan, if_neg Bool.false_ne_true, setSleepOnSigOn, Proc.modify_bind_run] at h
  rw [tiberoBeginForeignScan, if_neg Bool.false_ne_true, setSleepOnSigOn, Proc.modify_bind_run]
  rcases Proc.bind_eq_raise.mp h with hraise | ⟨tbStmt, w₁, hstmt, h⟩
  · exact .inl (Proc.bind_of_raise hraise)
  rcases Proc.bind_eq_raise.mp h with hraise | ⟨_, w₂, hprepare, h⟩
  · exact .inl (by rw [Proc.bind_of_ok hstmt, Proc.bind_of_raise hraise])
  rcases Proc.bind_eq_raise.mp h with hraise | ⟨resColCnt, w₃, hcount, h⟩
  · exact .inl (by rw [Proc.bind_of_ok hstmt, Proc.bind_of_ok hprepare,
      Proc.bind_of_raise hraise])
  rw [Proc.bind_of_ok hstmt, Proc.bind_of_ok hprepare, Proc.bind_of_ok hcount]
  rcases Proc.bind_eq_raise.mp h with hraise | ⟨columns, w₄, hdescribe, h⟩
  · rw [← tbSqlNumResultCols_prepared hprepare hcount]
    exact (describeBuffers_raise (fun _ => List.mem_range.mp) hraise).imp_left Proc.bind_of_raise
  · -- the calls that are left are those of the scan without memory
    obtain ⟨hcolumns, -⟩ := describeBuffers_ok hsmall hsize hdescribe
    refine .inl ?_
    rw [Proc.bind_of_ok hcolumns]
    rw [Proc.read_bind_run] at h ⊢
    rcases Proc.bind_eq_raise.mp h with hraise | ⟨_, w₅, hbind, h⟩
    · exact Proc.bind_of_raise hraise
    rcases Proc.bind_eq_raise.mp h with hraise | ⟨_, w₆, hrows, h⟩
    · rw [Proc.bind_of_ok hbind, Proc.bind_of_raise hraise]
    rcases Proc.bind_eq_raise.mp h with hraise | ⟨_, w₇, hptr, h⟩
    · rw [Proc.bind_of_ok hbind, Proc.bind_of_ok hrows, Proc.bind_of_raise hraise]
    rcases Proc.bind_eq_raise.mp h with hraise | ⟨_, w₈, hcols, h⟩
    · rw [Proc.bind_of_ok hbind, Proc.bind_of_ok hrows, Proc.bind_of_ok hptr,
        Proc.bind_of_raise hraise]
    · cases h

/-- After the begin, operation by operation. -/
theorem beginBufferedScan_run (hsmall : env.SmallColumns) {rel : Relation} {user : UserMapping}
    {fsplan : ForeignScan} (hfetch : FetchSizeOk fsplan) {scan : BufferedScan}
    (h : beginBufferedScan pg env rel user false fsplan w = .ok (some scan) w')
    (ops : List ScanOp) :
    (Proc.fold (ScanOp.runBuffered pg attbyval env) ops (BufferedRun.start scan) w').Agree
      (fun w w' => w' = w.mapRows (cutRow scan.fsstate.widths))
      (fun run run' => run'.returned = run.returned ∧ run'.ended = run.ended)
      (Proc.fold (ScanOp.run pg (env.mapRows (cutRow scan.fsstate.widths))) ops
        (ScanRun.start scan.fsstate) (w'.mapRows (cutRow scan.fsstate.widths))) := by
  obtain ⟨-, -, hsize, hmirrors⟩ := beginBufferedScan_ok hsmall hfetch h
  have hruns := Proc.Refines.fold
    (fun op run run' hrun => @runBuffered_refines pg attbyval env _ _ _ run run' hrun op)
    (a := BufferedRun.start scan) (b := ScanRun.start scan.fsstate) ⟨hmirrors, rfl, rfl⟩ ops w'
    (w'.mapRows (cutRow scan.fsstate.widths)) ⟨rfl, hsize.le⟩
  exact hruns.imp (fun _ _ hrun => ⟨hrun.returned, hrun.ended⟩) fun _ _ hw => hw.rows

/-- The row fits into columns of those widths, with the terminators. -/
def FitsInto (widths : List Nat) (row : Row) : Prop :=
  ∀ (i : Nat) (text : Text) (width : Nat), row[i]? = some (some text) → widths[i]? = some width →
    text.length < width ∧ nul ∉ text

theorem cutRow_eq_self {widths : List Nat} {row : Row} (h : FitsInto widths row) :
    cutRow widths row = row := by
  refine List.ext_getElem? fun i => ?_
  rw [cutRow, List.getElem?_mapIdx]
  rcases hvalue : row[i]? with _ | _ | text
  · rfl
  · rcases widths[i]? with _ | width <;> rfl
  · rcases hwidth : widths[i]? with _ | width
    · rfl
    · obtain ⟨hfits, hplain⟩ := h i text width hvalue hwidth
      exact congrArg (fun text => some (some text)) (cutTo_eq_self hfits hplain)

/-- When all rows fit, the scan in memory is the scan of `Scan`: no text is cut, neither in the
results to come nor in the rows that are pending. -/
theorem bufferedRun_exact (hsmall : env.SmallColumns) {rel : Relation} {user : UserMapping}
    {fsplan : ForeignScan} (hfetch : FetchSizeOk fsplan) {scan : BufferedScan}
    (h : beginBufferedScan pg env rel user false fsplan w = .ok (some scan) w')
    (hrows : ∀ n, ∀ row ∈ env.result n, FitsInto scan.fsstate.widths row)
    (hpending : ∀ hstmt, ∀ row ∈ (w'.stmts hstmt).pending, FitsInto scan.fsstate.widths row)
    (ops : List ScanOp) :
    (Proc.fold (ScanOp.runBuffered pg attbyval env) ops (BufferedRun.start scan) w').Agree
      (fun w w' => w' = w.mapRows (cutRow scan.fsstate.widths))
      (fun run run' => run'.returned = run.returned ∧ run'.ended = run.ended)
      (Proc.fold (ScanOp.run pg env) ops (ScanRun.start scan.fsstate) w') := by
  have henv : env.mapRows (cutRow scan.fsstate.widths) = env := by
    have hresult : (fun n => (env.result n).map (cutRow scan.fsstate.widths)) = env.result := by
      funext n
      exact (List.map_congr_left fun row hrow => cutRow_eq_self (hrows n row hrow)).trans
        (List.map_id' _)
    rw [Environment.mapRows, hresult]
  have hw : w'.mapRows (cutRow scan.fsstate.widths) = w' := by
    have hstmts : (fun hstmt => (w'.stmts hstmt).mapRows (cutRow scan.fsstate.widths)) =
        w'.stmts := by
      funext hstmt
      rw [DriverStmt.mapRows,
        List.map_congr_left fun row hrow => cutRow_eq_self (hpending hstmt row hrow), List.map_id']
    rw [World.mapRows, hstmts]
  have hrun := @beginBufferedScan_run pg attbyval env w w' hsmall rel user fsplan hfetch scan h ops
  rwa [henv, hw] at hrun

/-- A scan that begins without EXPLAIN has a state, and its query is not executed yet. -/
theorem beginBufferedScan_begun {rel : Relation} {user : UserMapping} {fsplan : ForeignScan}
    {r : Option BufferedScan} (h : beginBufferedScan pg env rel user false fsplan w = .ok r w') :
    ∃ scan, r = some scan ∧ scan.fsstate.tbStmt.queryExecuted = false ∧
      scan.fsstate.fetchSize = (fsplan.fetchSize % 0x10000000000000000).toNat := by
  rw [beginBufferedScan, if_neg Bool.false_ne_true] at h
  obtain ⟨_, w₁, -, h⟩ := Proc.bind_eq_ok.mp h
  obtain ⟨_, w₂, -, h⟩ := Proc.bind_eq_ok.mp h
  obtain ⟨_, w₃, -, h⟩ := Proc.bind_eq_ok.mp h
  obtain ⟨_, w₄, -, h⟩ := Proc.bind_eq_ok.mp h
  obtain ⟨_, w₅, -, h⟩ := Proc.bind_eq_ok.mp h
  rw [Proc.read_bind_run] at h
  obtain ⟨_, w₆, -, h⟩ := Proc.bind_eq_ok.mp h
  obtain ⟨_, w₇, -, h⟩ := Proc.bind_eq_ok.mp h
  obtain ⟨_, w₈, -, h⟩ := Proc.bind_eq_ok.mp h
  obtain ⟨_, w₉, -, h⟩ := Proc.bind_eq_ok.mp h
  cases h
  exact ⟨_, rfl, rfl, rfl⟩

/-- The scan over the memory of its buffers against the one without. -/
structure RefinesPlainScan (pg : Postgres) (attbyval : FormPgAttribute → Bool) (env : Environment)
    (rel : Relation) (user : UserMapping) (fsplan : ForeignScan) (ops : List ScanOp) (w : World) :
    Prop where
  state : ∀ w', beginBufferedScan pg env rel user false fsplan w ≠ .ok none w'
  /-- it begins as that one, when the array has an element for each column -/
  begins : ∀ scan w', beginBufferedScan pg env rel user false fsplan w = .ok (some scan) w' →
    tiberoBeginForeignScan pg env rel user false fsplan w = .ok (some scan.fsstate) w' ∧
      (env.describe fsplan.selectSql).length ≤ rel.tupdesc.length
  /-- when it does not begin, that one does not, or it is the memory that fails -/
  fails : ∀ e w', beginBufferedScan pg env rel user false fsplan w = .raise e w' →
    tiberoBeginForeignScan pg env rel user false fsplan w = .raise e w' ∨
      MemoryError rel.tupdesc.length (env.describe fsplan.selectSql).length e
  /-- it does what that one does on the rows cut to the columns -/
  agrees : ∀ scan w', beginBufferedScan pg env rel user false fsplan w = .ok (some scan) w' →
    (Proc.fold (ScanOp.runBuffered pg attbyval env) ops (BufferedRun.start scan) w').Agree
      (fun w w' => w' = w.mapRows (cutRow scan.fsstate.widths))
      (fun run run' => run'.returned = run.returned ∧ run'.ended = run.ended)
      (Proc.fold (ScanOp.run pg (env.mapRows (cutRow scan.fsstate.widths))) ops
        (ScanRun.start scan.fsstate) (w'.mapRows (cutRow scan.fsstate.widths)))
  /-- it does exactly what that one does, when the rows fit into the columns -/
  uncut : ∀ scan w', beginBufferedScan pg env rel user false fsplan w = .ok (some scan) w' →
    (∀ n, ∀ row ∈ env.result n, FitsInto scan.fsstate.widths row) →
    (∀ hstmt, ∀ row ∈ (w'.stmts hstmt).pending, FitsInto scan.fsstate.widths row) →
    (Proc.fold (ScanOp.runBuffered pg attbyval env) ops (BufferedRun.start scan) w').Agree
      (fun w w' => w' = w.mapRows (cutRow scan.fsstate.widths))
      (fun run run' => run'.returned = run.returned ∧ run'.ended = run.ended)
      (Proc.fold (ScanOp.run pg env) ops (ScanRun.start scan.fsstate) w')
  /-- it uses no memory that is not there -/
  noFault : ∀ scan w' e w'',
    beginBufferedScan pg env rel user false fsplan w = .ok (some scan) w' →
    Proc.fold (ScanOp.runBuffered pg attbyval env) ops (BufferedRun.start scan) w' =
      .raise e w'' → e ≠ accessFault

end

/-- A computation after a scan has begun. -/
theorem exists_begun {m : Fdw (Option BufferedScan)} {w : World}
    (h : (m w).okAnd (fun scan _ => scan.isSome) = true) :
    ∃ scan w', m w = .ok (some scan) w' := by
  obtain ⟨_ | scan, w', hm, hsome⟩ := Outcome.exists_of_okAnd h
  · cases hsome
  · exact ⟨scan, w', hm⟩

/-- A text of more characters than its column has. -/
def longRow : List Row := [[some "0123456789abc".toList]]

theorem Environment.delivering_smallColumns (rows : List Row) :
    (delivering rows).SmallColumns := by
  intro sql column hcolumn
  obtain rfl := List.mem_singleton.mp hcolumn
  decide

/-- The result has two columns and the table has one: the array of columns is left. -/
example :
    (match beginBufferedScan .small
        { Environment.delivering longRow with
          describe := fun _ => [(SQL_VARCHAR, 10), (SQL_VARCHAR, 10)] }
        textTable .sample false twoAtATimeScan .start with
      | .raise e _ => decide (e = accessFault)
      | .ok _ _ => false) = true := by
  decide +kernel

/-! ## Materialisation -/

section

variable {pg : Postgres} {attbyval : FormPgAttribute → Bool} {env : Environment} {w w' : World}
  {rows : List Row}

/-- What `m` calls over the memory return after a scan has begun: the slot of the `i`-th call is
that of the `i`-th row, and the calls do return when the cells can be converted. -/
def BufferedScan.ReturnsRows (pg : Postgres) (attbyval : FormPgAttribute → Bool)
    (env : Environment) (tupdesc : TupleDesc) (retrievedAttrs : List Int) (rows : List Row)
    (scan : BufferedScan) (w : World) (m : Nat) : Prop :=
  (∀ scan' slots w', BufferedScan.iterateTimes pg attbyval env m scan w = .ok (scan', slots) w' →
    SlotsOfRows pg tupdesc retrievedAttrs rows m slots) ∧
  ((∀ row ∈ rows, Convertible pg tupdesc retrievedAttrs row) →
    ∃ r w', BufferedScan.iterateTimes pg attbyval env m scan w = .ok r w')

/-- A scan before its first call has no row yet that could be replaced. -/
theorem BeforeCall.mapRows {fsstate : TbFdwScanState} (f : Row → Row)
    (h : BeforeCall pg env rows fsstate 0 fsstate w)
    (hexecuted : fsstate.tbStmt.queryExecuted = false) :
    BeforeCall pg (env.mapRows f) (rows.map f) fsstate 0 fsstate (w.mapRows f) where
  same := h.same
  size := h.size
  result hno := congrArg (List.map f) (h.result hno)
  scanAt := by
    have hat := h.scanAt
    generalize 0 = n at hat
    cases hat with
    | unstarted held cur more => exact .unstarted held cur more hexecuted
    | inBatch before tuples cnt held cur more executed =>
      rw [hexecuted] at executed
      cases executed
    | atEnd cnt more executed =>
      rw [hexecuted] at executed
      cases executed

/-- **Materialisation in memory**: the arrays that all rows of a batch share and the buffers that
all batches share pass nothing on from one row to another. The rows are those of the result, with
the texts that the columns have room for. -/
theorem beginBufferedScan_returnsRows (hok : env.AllOk) (hsmall : env.SmallColumns)
    {rel : Relation} {user : UserMapping} {fsplan : ForeignScan} (hfetch : FetchSizeOk fsplan)
    {scan : BufferedScan}
    (h : beginBufferedScan pg env rel user false fsplan w = .ok (some scan) w')
    (hnodup : fsplan.retrievedAttrs.Nodup)
    (hrange : ∀ attnum ∈ fsplan.retrievedAttrs, 1 ≤ attnum ∧ attnum ≤ rel.tupdesc.length)
    (hcols : fsplan.retrievedAttrs.length ≤ (env.describe fsplan.selectSql).length)
    (hresult : env.result w'.trace.length = rows)
    (hfits : ∀ row ∈ rows, FitsInto scan.fsstate.widths row) (m : Nat) :
    scan.ReturnsRows pg attbyval env rel.tupdesc fsplan.retrievedAttrs rows w' m := by
  obtain ⟨hplain, -, hsize, hmirrors⟩ := beginBufferedScan_ok hsmall hfetch h
  obtain ⟨htupdesc, hretrieved, htable⟩ := tiberoBeginForeignScan_table hplain
  obtain ⟨_, heq, hexecuted, hfetchSize⟩ := beginBufferedScan_begun h
  obtain rfl := Option.some_inj.mp heq
  have hpos : 1 ≤ scan.fsstate.fetchSize := by
    obtain ⟨hpos, hmax⟩ := hfetch
    rw [tbFdwMaxFetchSize] at hmax
    rw [hfetchSize]
    omega
  have hcut : rows.map (cutRow scan.fsstate.widths) = rows :=
    (List.map_congr_left fun row hrow => cutRow_eq_self (hfits row hrow)).trans (List.map_id' _)
  have hstart := (BeforeCall.of_begin hplain hpos hresult).mapRows (cutRow scan.fsstate.widths)
    hexecuted
  rw [hcut] at hstart
  rw [← hretrieved] at hnodup hrange hcols ⊢
  rw [← htupdesc] at hrange ⊢
  rw [← htable] at hcols
  -- the same calls without memory, with every row cut
  obtain ⟨hslots, hreturns⟩ := hstart.returnsRows
    (show (env.mapRows (cutRow scan.fsstate.widths)).AllOk from hok) hnodup hrange hcols m
  have hagree := @iterateTimes_refines pg attbyval env _ _ _ scan scan.fsstate hmirrors m w'
    (w'.mapRows (cutRow scan.fsstate.widths)) ⟨rfl, hsize.le⟩
  constructor
  · intro scan' slots w₁ hrun
    rw [hrun] at hagree
    rcases hplainRun : iterateTimes pg (env.mapRows (cutRow scan.fsstate.widths)) m scan.fsstate
      (w'.mapRows (cutRow scan.fsstate.widths)) with ⟨⟨fsstate', slots'⟩, w₂⟩ | ⟨e, w₂⟩ <;>
      rw [hplainRun] at hagree
    · obtain rfl : slots' = slots := hagree.1
      exact hslots fsstate' slots' w₂ hplainRun
    · exact hagree.elim
  · intro hconv
    obtain ⟨r, w₂, hplainRun⟩ := hreturns hconv
    rw [hplainRun] at hagree
    rcases hrun : BufferedScan.iterateTimes pg attbyval env m scan w' with ⟨r', w₁⟩ | ⟨e, w₁⟩
    · exact ⟨r', w₁, rfl⟩
    · rw [hrun] at hagree
      exact hagree.elim

/-- **Materialisation**: the calls return the tuples of the rows of the result, whatever the size
of the batches is, and empty slots after the last row. So do the calls over the memory of the
scan, where a batch is read from the buffers of its columns and all its tuples are formed in the
same two arrays, as soon as the cells fit into these buffers. -/
theorem iterates_returnsRows {rel : Relation} {user : UserMapping} {fsplan : ForeignScan}
    {fsstate : TbFdwScanState} {w₀ : World} (hok : env.AllOk)
    (hbegin : tiberoBeginForeignScan pg env rel user false fsplan w₀ = .ok (some fsstate) w)
    (hsize : 1 ≤ fsstate.fetchSize) (hnodup : fsplan.retrievedAttrs.Nodup)
    (hrange : ∀ attnum ∈ fsplan.retrievedAttrs, 1 ≤ attnum ∧ attnum ≤ rel.tupdesc.length)
    (hcols : fsplan.retrievedAttrs.length ≤ (env.describe fsplan.selectSql).length)
    (hresult : env.result w.trace.length = rows) (m : Nat) :
    ReturnsRows pg env rel.tupdesc fsplan.retrievedAttrs rows fsstate w m ∧
      ∀ scan attbyval, beginBufferedScan pg env rel user false fsplan w₀ = .ok (some scan) w →
        env.SmallColumns → FetchSizeOk fsplan →
        (∀ row ∈ rows, FitsInto scan.fsstate.widths row) →
        scan.ReturnsRows pg attbyval env rel.tupdesc fsplan.retrievedAttrs rows w m := by
  constructor
  · obtain ⟨htupdesc, hretrieved, htable⟩ := tiberoBeginForeignScan_table hbegin
    rw [← hretrieved] at hnodup hrange hcols ⊢
    rw [← htupdesc] at hrange ⊢
    exact (BeforeCall.of_begin hbegin hsize hresult).returnsRows hok hnodup hrange
      (by rw [htable]; exact hcols) m
  · intro scan attbyval hbuffered hsmall hfetch hfits
    exact beginBufferedScan_returnsRows hok hsmall hfetch hbuffered hnodup hrange hcols hresult
      hfits m

end

/-- Three rows of a number and a text; one of the numbers and one of the texts are NULL. -/
def threeRows : List Row :=
  [[some "7".toList, some "a".toList], [none, some "b".toList], [some "8".toList, none]]

/-- A driver that delivers them. -/
def Environment.deliveringThree : Environment :=
  { Environment.delivering threeRows with
    describe := fun _ => [(SQL_INTEGER, 0), (SQL_VARCHAR, 10)] }

/-- Two of the rows at a time, into the columns beside the dropped one. -/
def threeRowsScan : ForeignScan :=
  { twoAtATimeScan with selectSql := "SELECT n, c FROM t".toList, retrievedAttrs := [1, 3] }

/-- The third row is in a second batch, and the fourth call finds the end. -/
theorem threeRows_returned :
    ∃ fsstate w, ∃ scan : BufferedScan,
      tiberoBeginForeignScan .smallNumbers .deliveringThree numberTextTable .sample false
        threeRowsScan .start = .ok (some fsstate) w ∧
      ReturnsRows .smallNumbers .deliveringThree numberTextTable.tupdesc [1, 3] threeRows fsstate w
        4 ∧
      scan.ReturnsRows .smallNumbers (fun attr => attr.atttypid == INT4OID) .deliveringThree
        numberTextTable.tupdesc [1, 3] threeRows w 4 := by
  have hsmall : Environment.deliveringThree.SmallColumns := by
    intro sql column hcolumn
    rcases List.mem_pair.mp hcolumn with rfl | rfl <;> decide
  obtain ⟨_ | scan, w, hbuffered, hscan⟩ := Outcome.exists_of_okAnd
    (o := beginBufferedScan .smallNumbers .deliveringThree numberTextTable .sample false
      threeRowsScan .start)
    (p := fun (scan : Option BufferedScan) (_ : World) => scan.any fun scan =>
      1 ≤ scan.fsstate.fetchSize && scan.fsstate.widths == [257, 11]) (by decide +kernel)
  · cases hscan
  obtain ⟨hsize, hwidths⟩ := Bool.and_eq_true_iff.mp hscan
  have hbegin := (beginBufferedScan_ok hsmall (by decide) hbuffered).1
  have hfits : ∀ row ∈ threeRows, FitsInto scan.fsstate.widths row := by
    rw [beq_iff_eq.mp hwidths]
    intro row hrow i text width htext hwidth
    -- each text is of one character
    have hshort : ∀ cell ∈ row, ∀ text, cell = some text → text.length = 1 ∧ nul ∉ text := by
      simp only [threeRows, List.mem_cons, List.not_mem_nil, or_false] at hrow
      rcases hrow with rfl | rfl | rfl <;> simp [nul]
    have hwide : ∀ width ∈ [257, 11], 1 < width := by decide
    obtain ⟨hlen, hplain⟩ := hshort _ (List.mem_of_getElem? htext) text rfl
    exact ⟨hlen ▸ hwide width (List.mem_of_getElem? hwidth), hplain⟩
  obtain ⟨hplain, hmemory⟩ := iterates_returnsRows (fun _ => rfl) hbegin (of_decide_eq_true hsize)
    (by decide) (by decide) (by decide) rfl 4
  exact ⟨scan.fsstate, w, scan, hbegin, hplain,
    hmemory scan _ hbuffered hsmall (by decide) hfits⟩

end TiberoFdw
