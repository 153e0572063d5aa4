import TiberoFdw.Scan

/-!
# Batched materialisation

What a scan returns, call by call, from the rows of the remote result to the
attributes of the tuples:

* `IsTupleOf` — the tuple of a row: each retrieved attribute is the conversion of
  its cell, and every other attribute is NULL;
* `iterateTimes` — a number of calls of `tiberoIterateForeignScan`, with the
  slots they return.

The size of the batches plays no part in either (`BeforeCall.returnsRows`); `BufferedScan` goes on
to the memory that the batches are kept in.
-/

namespace TiberoFdw

/-! ## The tuple of a row -/

/-- The value of a column that a cell is converted to. -/
inductive Converted (pg : Postgres) (attr : FormPgAttribute) :
    Option Text → Option Datum → Prop where
  | null : Converted pg attr none none
  | value {text : Text} {datum : Datum}
      (converts : pg.inputFunctionCall (pg.pgType attr.atttypid).typinput text attr.atttypid
        attr.atttypmod = some datum) : Converted pg attr (some text) (some datum)

/-- The tuple of a row; the `k`-th cell is that of the `k`-th retrieved attribute. -/
structure IsTupleOf (pg : Postgres) (tupdesc : TupleDesc) (retrievedAttrs : List Int) (row : Row)
    (tuple : HeapTuple) : Prop where
  natts : tuple.length = tupdesc.length
  retrieved : ∀ k attnum : Nat, retrievedAttrs[k]? = some (attnum + 1) →
    ∃ attr value, tupleDescAttr tupdesc attnum = some attr ∧ tuple[attnum]? = some value ∧
      Converted pg attr (row[k]?).join value
  others : ∀ attnum < tupdesc.length, ((attnum + 1 : Nat) : Int) ∉ retrievedAttrs →
    tuple[attnum]? = some none

/-- Every cell of the row can be converted. -/
def Convertible (pg : Postgres) (tupdesc : TupleDesc) (retrievedAttrs : List Int) (row : Row) :
    Prop :=
  ∀ (k attnum : Nat) (attr : FormPgAttribute), retrievedAttrs[k]? = some (attnum + 1) →
    tupleDescAttr tupdesc attnum = some attr → ∃ value, Converted pg attr (row[k]?).join value

section

variable {pg : Postgres} {tupdesc : TupleDesc} {cell : Nat → Option (Option Text)}

/-- One turn of the loop over the retrieved attributes. -/
theorem fillValues_cons {attnum : Int} {rest : List Int} {attid : Nat} {dvalues tuple : HeapTuple}
    (h : fillValues pg tupdesc cell (attnum :: rest) attid dvalues = .ok tuple) :
    1 ≤ attnum ∧ ∃ attr content value, tupleDescAttr tupdesc (attnum - 1).toNat = some attr ∧
      cell attid = some content ∧ Converted pg attr content value ∧
      fillValues pg tupdesc cell rest (attid + 1) (dvalues.set (attnum - 1).toNat value) =
        .ok tuple := by
  rw [fillValues] at h
  split_ifs at h with hpos
  refine ⟨hpos, ?_⟩
  rcases hattr : tupleDescAttr tupdesc (attnum - 1).toNat with _ | attr
  · rw [hattr] at h
    cases h
  rcases hcell : cell attid with _ | _ | text
  · rw [hattr, hcell] at h
    cases h
  · rw [hattr, hcell] at h
    exact ⟨attr, none, none, rfl, rfl, .null, h⟩
  · rw [hattr, hcell] at h
    dsimp only at h
    rcases hdatum : pg.inputFunctionCall (pg.pgType attr.atttypid).typinput text attr.atttypid
        attr.atttypmod with _ | datum
    · rw [hdatum] at h
      cases h
    · rw [hdatum] at h
      exact ⟨attr, some text, some datum, rfl, rfl, .value hdatum, h⟩

/-- The loop sets the retrieved attributes, and leaves the others as they are. -/
theorem fillValues_ok {l : List Int} {attid : Nat} {dvalues tuple : HeapTuple} (hnodup : l.Nodup)
    (hlen : dvalues.length = tupdesc.length)
    (h : fillValues pg tupdesc cell l attid dvalues = .ok tuple) :
    tuple.length = tupdesc.length ∧
      (∀ k attnum : Nat, l[k]? = some (attnum + 1) → ∃ attr content value,
        tupleDescAttr tupdesc attnum = some attr ∧ cell (attid + k) = some content ∧
          tuple[attnum]? = some value ∧ Converted pg attr content value) ∧
      ∀ attnum : Nat, ((attnum + 1 : Nat) : Int) ∉ l → tuple[attnum]? = dvalues[attnum]? := by
  -- the induction is on the retrieved attributes, each of which sets one value
  induction l generalizing attid dvalues with
  | nil =>
    cases h
    exact ⟨hlen, fun k attnum hk => by simp at hk, fun _ _ => rfl⟩
  | cons a rest ih =>
    obtain ⟨hpos, attr, content, value, hattr, hcell, hconverted, hrest⟩ := fillValues_cons h
    rw [List.nodup_cons] at hnodup
    obtain ⟨hlength, hretrieved, hothers⟩ := ih hnodup.2 (by rw [List.length_set, hlen]) hrest
    refine ⟨hlength, ?_, ?_⟩
    · rintro (_ | k) attnum hk
      · -- the attribute of this turn, which no later turn touches
        obtain rfl : a = attnum + 1 := by simpa using hk
        rw [Int.add_sub_cancel, Int.toNat_natCast] at hattr hothers
        refine ⟨attr, content, value, hattr, hcell, ?_, hconverted⟩
        have hlt : attnum < dvalues.length := by
          rw [hlen]
          exact (List.getElem?_eq_some_iff.mp hattr).1
        rw [hothers attnum (by exact_mod_cast hnodup.1), List.getElem?_set_self hlt]
      · obtain ⟨attr', content', value', hattr', hcell', htuple, hconverted'⟩ :=
          hretrieved k attnum (by simpa using hk)
        refine ⟨attr', content', value', hattr', ?_, htuple, hconverted'⟩
        rw [← hcell', Nat.add_right_comm, Nat.add_assoc]
    · rintro attnum hnot
      rw [List.mem_cons, not_or] at hnot
      rw [hothers attnum hnot.2, List.getElem?_set_ne]
      omega

/-- The loop ends when every cell is there and can be converted. -/
theorem fillValues_returns {l : List Int} {attid : Nat} {dvalues : HeapTuple}
    (h : ∀ k a, l[k]? = some a → 1 ≤ a ∧ ∃ attr content value,
      tupleDescAttr tupdesc (a - 1).toNat = some attr ∧ cell (attid + k) = some content ∧
        Converted pg attr content value) :
    ∃ tuple, fillValues pg tupdesc cell l attid dvalues = .ok tuple := by
  induction l generalizing attid dvalues with
  | nil => exact ⟨dvalues, rfl⟩
  | cons a rest ih =>
    have hrest : ∀ dvalues', ∃ tuple,
        fillValues pg tupdesc cell rest (attid + 1) dvalues' = .ok tuple := by
      intro dvalues'
      apply ih
      intro k a' hk
      obtain ⟨hpos, attr, content, value, hattr, hcell, hconverted⟩ :=
        h (k + 1) a' (by simpa using hk)
      exact ⟨hpos, attr, content, value, hattr, by rw [← hcell, Nat.add_right_comm, Nat.add_assoc],
        hconverted⟩
    obtain ⟨hpos, attr, content, value, hattr, hcell, hconverted⟩ := h 0 a rfl
    rw [Nat.add_zero] at hcell
    rw [fillValues, if_pos hpos, hattr, hcell]
    -- a null value is left out, and any other is converted
    cases hconverted with
    | null => exact hrest _
    | value hconverts =>
      dsimp only
      rw [hconverts]
      exact hrest _

end

section

variable {pg : Postgres} {env : Environment} {w w' : World} {fsstate fsstate' : TbFdwScanState}
  {rows : List Row}

/-- What is formed from a row is its tuple. -/
theorem isTupleOf_of_tupleOfRow {row : Row} {tuple : HeapTuple}
    (hnodup : fsstate.retrievedAttrs.Nodup) (h : tupleOfRow pg fsstate row = .ok tuple) :
    IsTupleOf pg fsstate.tupdesc fsstate.retrievedAttrs row tuple := by
  obtain ⟨hlen, hretrieved, hothers⟩ := fillValues_ok hnodup (List.length_replicate ..) h
  refine ⟨hlen, ?_, ?_⟩
  · rintro k attnum hk
    obtain ⟨attr, content, value, hattr, hcell, htuple, hconverted⟩ := hretrieved k attnum hk
    rw [Nat.zero_add] at hcell
    split_ifs at hcell
    cases hcell
    exact ⟨attr, value, hattr, htuple, hconverted⟩
  · rintro attnum hlt hnot
    rw [hothers attnum hnot, List.getElem?_replicate, if_pos hlt]

/-- A row is formed when its cells can be converted. -/
theorem tupleOfRow_returns {row : Row}
    (hrange : ∀ a ∈ fsstate.retrievedAttrs, 1 ≤ a ∧ a ≤ fsstate.tupdesc.length)
    (hcols : fsstate.retrievedAttrs.length ≤ fsstate.table.length)
    (hconv : Convertible pg fsstate.tupdesc fsstate.retrievedAttrs row) :
    ∃ tuple, tupleOfRow pg fsstate row = .ok tuple := by
  apply fillValues_returns
  intro k a hk
  obtain ⟨hpos, hle⟩ := hrange a (List.mem_of_getElem? hk)
  have hlt : (a - 1).toNat < fsstate.tupdesc.length := by omega
  have hattr : tupleDescAttr fsstate.tupdesc (a - 1).toNat = some fsstate.tupdesc[(a - 1).toNat] :=
    List.getElem?_eq_getElem hlt
  obtain ⟨value, hconverted⟩ := hconv k (a - 1).toNat _ (by rw [hk]; congr 1; omega) hattr
  refine ⟨hpos, _, (row[k]?).join, value, hattr, ?_, hconverted⟩
  rw [Nat.zero_add, if_pos (Nat.lt_of_lt_of_le (List.getElem?_eq_some_iff.mp hk).1 hcols)]

/-! ## One call returns -/

theorem formTuples_returns {l : List Nat}
    (h : ∀ i ∈ l, ∃ tuple,
        heapFormTuple pg fsstate.tupdesc fsstate.retrievedAttrs (fsstate.cell i) =
      .ok tuple) : ∃ tuples, formTuples pg fsstate l = .ok tuples := by
  induction l with
  | nil => exact ⟨[], rfl⟩
  | cons i rest ih =>
    obtain ⟨tuple, htuple⟩ := h i (List.mem_cons_self ..)
    obtain ⟨tuples, htuples⟩ := ih fun j hj => h j (List.mem_cons_of_mem _ hj)
    refine ⟨tuple :: tuples, ?_⟩
    rw [formTuples, htuple, htuples]
    rfl

/-- A batch is fetched, and its tuples are formed. -/
theorem fetchTuples_returns (hok : env.AllOk) (hmore : fsstate.endOfFetch = false)
    (hform : ∀ row ∈ (w.stmts fsstate.tbStmt.hstmt).pending,
      ∃ tuple, tupleOfRow pg fsstate row = .ok tuple) :
    ∃ fsstate₁ w₁, fetchTuples pg env fsstate w = .ok fsstate₁ w₁ := by
  obtain ⟨⟨batch, atEnd⟩, w₁, hfetch⟩ := (tbSqlFetch_raisesOnly hok fsstate.tbStmt).returns w
  rw [fetchTuples, Proc.bind_of_ok hfetch]
  rcases tbSqlFetch_delivers hok hfetch with ⟨-, hr, -⟩ | ⟨-, hr, -⟩
  · -- the end of the result
    cases hr
    dsimp only
    rw [Bool.or_true, if_pos rfl]
    exact ⟨_, _, rfl⟩
  · cases hr
    -- every row of the batch is converted
    obtain ⟨tuples, htuples⟩ : ∃ tuples, formTuples pg { fsstate with
        table := storeBatch (w.stmts fsstate.tbStmt.hstmt).batch fsstate.table
        tupleCnt := (w.stmts fsstate.tbStmt.hstmt).batch.length
        endOfFetch := fsstate.endOfFetch || false
        curTupleIdx := 0 } (List.range (w.stmts fsstate.tbStmt.hstmt).batch.length) =
          .ok tuples := by
      apply formTuples_returns
      intro i hi
      have hrows := storeBatch_tuples pg fsstate (w.stmts fsstate.tbStmt.hstmt).batch
        { fsstate with table := storeBatch (w.stmts fsstate.tbStmt.hstmt).batch fsstate.table }
        rfl rfl rfl
      have hmem := List.mem_map_of_mem (f := fun i => heapFormTuple pg fsstate.tupdesc
        fsstate.retrievedAttrs (TbFdwScanState.cell { fsstate with
          table := storeBatch (w.stmts fsstate.tbStmt.hstmt).batch fsstate.table } i)) hi
      rw [hrows] at hmem
      obtain ⟨row, hrow, hrow'⟩ := List.mem_map.mp hmem
      obtain ⟨tuple, htuple⟩ := hform row (List.mem_of_mem_take hrow)
      exact ⟨tuple, hrow'.symm.trans htuple⟩
    dsimp only
    rw [hmore, Bool.or_false, if_neg (by decide), if_neg (by decide), makeTuples]
    rw [hmore, Bool.or_false] at htuples
    simp only [Int.toNat_natCast, htuples]
    exact ⟨_, _, rfl⟩

theorem getNextTuple_returns
    (h : fsstate.endOfFetch = false → fsstate.curTupleIdx < fsstate.tuples.length) :
    ∃ r w', getNextTuple fsstate w = .ok r w' := by
  rw [getNextTuple]
  rcases hmore : fsstate.endOfFetch with _ | _
  · rw [if_neg (by decide), List.getElem?_eq_getElem (h hmore)]
    exact ⟨_, _, rfl⟩
  · rw [if_pos rfl]
    exact ⟨_, _, rfl⟩

/-- The part of `tiberoIterateForeignScan` after the execution. -/
def nextSlot (pg : Postgres) (env : Environment) (fsstate : TbFdwScanState) :
    Fdw (TbFdwScanState × Option HeapTuple) :=
  (if needFetchTuples fsstate then fetchTuples pg env fsstate else pure fsstate) >>= getNextTuple

/-- A batch is fetched, and there is a tuple to hand out, unless the end was met. -/
theorem nextSlot_returns_of_need (hok : env.AllOk) (hmore : fsstate.endOfFetch = false)
    (hneed : needFetchTuples fsstate = true)
    (hform : ∀ row ∈ (w.stmts fsstate.tbStmt.hstmt).pending,
      ∃ tuple, tupleOfRow pg fsstate row = .ok tuple) :
    ∃ r w', nextSlot pg env fsstate w = .ok r w' := by
  obtain ⟨fsstate₁, w₁, hfetch⟩ := fetchTuples_returns hok hmore hform
  rw [nextSlot, if_pos hneed, Proc.bind_of_ok hfetch]
  apply getNextTuple_returns
  intro hmore₁
  obtain ⟨-, -, hcur, ⟨-, hend, -⟩ | ⟨hbatch, -, -, htuples, -⟩⟩ := fetchTuples_ok hok hmore hfetch
  · rw [hend] at hmore₁
    cases hmore₁
  · have hlen := congrArg List.length htuples
    rw [List.length_map, List.length_map] at hlen
    rw [hcur, hlen]
    exact List.length_pos_iff.mpr hbatch

theorem nextSlot_returns_of_not_need (hneed : ¬needFetchTuples fsstate = true)
    (h : fsstate.endOfFetch = false → fsstate.curTupleIdx < fsstate.tuples.length) :
    ∃ r w', nextSlot pg env fsstate w = .ok r w' := by
  rw [nextSlot, if_neg hneed]
  exact getNextTuple_returns h

theorem iterate_returns_of_nextSlot (tbStmt : TbStatement) (w₁ : World)
    (hexecute : executeUnlessExecuted env fsstate.tbStmt { w with useSleepOnSig := true } =
      .ok tbStmt w₁)
    (hnext : ∃ r w', nextSlot pg env { fsstate with tbStmt } w₁ = .ok r w') :
    ∃ r w', tiberoIterateForeignScan pg env fsstate w = .ok r w' := by
  obtain ⟨r, w₂, hrest⟩ := hnext
  rw [nextSlot] at hrest
  obtain ⟨fsstate₁, w₃, hfetch, hnext⟩ := Proc.bind_eq_ok.mp hrest
  rw [tiberoIterateForeignScan, setSleepOnSigOn, Proc.modify_bind_run, Proc.bind_of_ok hexecute,
    Proc.bind_of_ok hfetch, Proc.bind_of_ok hnext]
  exact ⟨_, _, rfl⟩

/-- **One call returns** when every row can be formed. No call of the driver fails by assumption,
so only the conversion of a row could raise an error. -/
theorem iterate_returns (hok : env.AllOk)
    (hresult : fsstate.tbStmt.queryExecuted = false → env.result w.trace.length = rows) {n : Nat}
    (hat : ScanAt (tupleOfRow pg fsstate) rows n fsstate (w.stmts fsstate.tbStmt.hstmt))
    (hform : ∀ row ∈ rows, ∃ tuple, tupleOfRow pg fsstate row = .ok tuple) :
    ∃ r w', tiberoIterateForeignScan pg env fsstate w = .ok r w' := by
  cases hat with
  | unstarted held cur more executed =>
    obtain ⟨tbStmt, w₁, hrun⟩ := (tbSqlExecute_raisesOnly hok fsstate.tbStmt).returns
      { w with useSleepOnSig := true }
    have hresult' : env.result { w with useSleepOnSig := true }.trace.length = rows :=
      hresult executed
    obtain ⟨rfl, hstmt⟩ := tbSqlExecute_rewinds hresult' hrun
    refine iterate_returns_of_nextSlot { fsstate.tbStmt with queryExecuted := true } w₁
      (by rw [executeUnlessExecuted, if_neg (by simp [executed]), hrun]) ?_
    refine nextSlot_returns_of_need hok more ?_ ?_
    · refine (needFetchTuples_iff more).mpr (held.imp_right fun hzero => ?_)
      rw [cur, hzero]
      rfl
    · change ∀ row ∈ (w₁.stmts fsstate.tbStmt.hstmt).pending, _
      rw [hstmt]
      exact hform
  | inBatch before tuples cnt held cur more executed pending =>
    refine iterate_returns_of_nextSlot fsstate.tbStmt { w with useSleepOnSig := true }
      (by rw [executeUnlessExecuted, if_pos executed]; rfl) ?_
    rcases Nat.lt_or_eq_of_le cur with hlt | heq
    · -- within the batch
      refine nextSlot_returns_of_not_need ?_ fun _ => hlt
      rw [needFetchTuples_iff more, cnt, tbFdwInitTupleCnt]
      omega
    · -- the batch is used up
      refine nextSlot_returns_of_need hok more ?_ ?_
      · rw [needFetchTuples_iff more, cnt, heq]
        exact .inr rfl
      · change ∀ row ∈ (w.stmts fsstate.tbStmt.hstmt).pending, _
        rw [pending]
        exact fun row hrow => hform row (List.mem_of_mem_drop hrow)
  | atEnd cnt more executed =>
    refine iterate_returns_of_nextSlot fsstate.tbStmt { w with useSleepOnSig := true }
      (by rw [executeUnlessExecuted, if_pos executed]; rfl) ?_
    apply nextSlot_returns_of_not_need (by simp [needFetchTuples, more])
    change fsstate.endOfFetch = false → _
    rw [more]
    rintro ⟨⟩

theorem fetchTuples_tbStmt (h : fetchTuples pg env fsstate w = .ok fsstate' w') :
    fsstate'.tbStmt = fsstate.tbStmt := by
  rw [fetchTuples] at h
  obtain ⟨⟨batch, atEnd⟩, w₁, -, h⟩ := Proc.bind_eq_ok.mp h
  dsimp only at h
  split_ifs at h
  all_goals first
    | (cases h; rfl)
    | (obtain ⟨-, tuples, rfl, -⟩ := makeTuples_ok h; rfl)

/-- What a call does to its statement. -/
theorem iterate_tbStmt {slot : Option HeapTuple}
    (h : tiberoIterateForeignScan pg env fsstate w = .ok (fsstate', slot) w') :
    fsstate'.tbStmt = { fsstate.tbStmt with queryExecuted := true } := by
  rw [tiberoIterateForeignScan, setSleepOnSigOn, Proc.modify_bind_run] at h
  obtain ⟨tbStmt, w₁, hexecute, h⟩ := Proc.bind_eq_ok.mp h
  obtain ⟨fsstate₁, w₂, hfetch, h⟩ := Proc.bind_eq_ok.mp h
  obtain ⟨⟨fsstate₂, slot₂⟩, w₃, hnext, h⟩ := Proc.bind_eq_ok.mp h
  cases h
  -- only the mark of the execution changes
  have hexecuted : tbStmt = { fsstate.tbStmt with queryExecuted := true } := by
    rw [executeUnlessExecuted] at hexecute
    split_ifs at hexecute with hdone
    · cases hexecute
      rw [← hdone]
    · exact (tbSqlExecute_ok hexecute).2.1
  have hfetched : fsstate₁.tbStmt = tbStmt := by
    split_ifs at hfetch
    · exact fetchTuples_tbStmt hfetch
    · cases hfetch
      rfl
  rw [getNextTuple] at hnext
  split_ifs at hnext
  · cases hnext
    rw [hfetched, hexecuted]
  · rcases htuple : fsstate₁.tuples[fsstate₁.curTupleIdx]? with _ | tuple
    · rw [htuple] at hnext
      cases hnext
    · rw [htuple] at hnext
      cases hnext
      rw [hfetched, hexecuted]

/-- After a call the query is executed. -/
theorem iterate_executed {slot : Option HeapTuple}
    (h : tiberoIterateForeignScan pg env fsstate w = .ok (fsstate', slot) w') :
    fsstate'.tbStmt.queryExecuted = true := by
  rw [iterate_tbStmt h]

end

/-! ## A number of calls -/

/-- `m` calls of `tiberoIterateForeignScan`, with the slots they return. -/
def iterateTimes (pg : Postgres) (env : Environment) :
    Nat → TbFdwScanState → Fdw (TbFdwScanState × List (Option HeapTuple))
  | 0, fsstate => pure (fsstate, [])
  | m + 1, fsstate => do
    let (fsstate, slot) ← tiberoIterateForeignScan pg env fsstate
    let (fsstate, slots) ← iterateTimes pg env m fsstate
    pure (fsstate, slot :: slots)

/-- The slot of a call, by the row of the result it is for. -/
inductive SlotOf (pg : Postgres) (tupdesc : TupleDesc) (retrievedAttrs : List Int) :
    Option Row → Option HeapTuple → Prop where
  | row {row : Row} {tuple : HeapTuple} (tupleOf : IsTupleOf pg tupdesc retrievedAttrs row tuple) :
      SlotOf pg tupdesc retrievedAttrs (some row) (some tuple)
  | afterLast : SlotOf pg tupdesc retrievedAttrs none none

section

variable {pg : Postgres} {env : Environment} {w w' : World}
  {fsstate fsstate' fsstate₀ : TbFdwScanState} {rows : List Row}

/-- The state of a scan before a call. -/
structure BeforeCall (pg : Postgres) (env : Environment) (rows : List Row)
    (fsstate₀ : TbFdwScanState) (n : Nat) (fsstate : TbFdwScanState) (w : World) : Prop where
  same : SameScan fsstate₀ fsstate
  size : 0 < (w.stmts fsstate.tbStmt.hstmt).rowArraySize
  result : fsstate.tbStmt.queryExecuted = false → env.result w.trace.length = rows
  scanAt : ScanAt (tupleOfRow pg fsstate₀) rows n fsstate (w.stmts fsstate.tbStmt.hstmt)

theorem BeforeCall.step (hok : env.AllOk) {n : Nat} {slot : Option HeapTuple}
    (h : BeforeCall pg env rows fsstate₀ n fsstate w)
    (hrun : tiberoIterateForeignScan pg env fsstate w = .ok (fsstate', slot) w') :
    (rows[n]?).map (tupleOfRow pg fsstate₀) = slot.map .ok ∧
      BeforeCall pg env rows fsstate₀ (min (n + 1) rows.length) fsstate' w' := by
  obtain ⟨hsame, hkept, hadvances⟩ :=
    iterate_scanAt hok h.result h.same.tupleOfRow_eq.symm h.size h.scanAt hrun
  have hexecuted := iterate_executed hrun
  rw [← hsame.hstmt] at hkept hadvances
  have hafter : ∀ n', ScanAt (tupleOfRow pg fsstate₀) rows n' fsstate'
      (w'.stmts fsstate'.tbStmt.hstmt) → BeforeCall pg env rows fsstate₀ n' fsstate' w' := by
    intro n' hat
    refine ⟨h.same.trans hsame, ?_, fun hno => ?_, hat⟩
    · rw [hkept, hsame.hstmt]
      exact h.size
    · rw [hexecuted] at hno
      cases hno
  rcases hadvances with ⟨tuple, rfl, htuple, hat⟩ | ⟨rfl, rfl, hat⟩
  · -- the next row
    rw [Nat.min_eq_left hat.le_length]
    exact ⟨htuple, hafter _ hat⟩
  · -- the end
    rw [Nat.min_eq_right (Nat.le_succ _)]
    exact ⟨by simp, hafter _ hat⟩

/-- **The run**: the slots of the calls are the tuples of the rows, in order, and
then empty. -/
theorem iterateTimes_slots (hok : env.AllOk) {n m : Nat} {slots : List (Option HeapTuple)}
    (h : BeforeCall pg env rows fsstate₀ n fsstate w)
    (hrun : iterateTimes pg env m fsstate w = .ok (fsstate', slots) w') :
    slots.length = m ∧ ∀ i < m, ∃ slot, slots[i]? = some slot ∧
      (rows[n + i]?).map (tupleOfRow pg fsstate₀) = slot.map .ok := by
  induction m generalizing n fsstate slots w with
  | zero =>
    cases hrun
    exact ⟨rfl, fun i hi => absurd hi (Nat.not_lt_zero i)⟩
  | succ m ih =>
    obtain ⟨⟨fsstate₁, slot⟩, w₁, hiterate, hrun⟩ := Proc.bind_eq_ok.mp hrun
    obtain ⟨⟨fsstate₂, slots'⟩, w₂, hrest, hrun⟩ := Proc.bind_eq_ok.mp hrun
    cases hrun
    obtain ⟨hslot, hnext⟩ := h.step hok hiterate
    obtain ⟨hlen, hslots⟩ := ih hnext hrest
    refine ⟨by rw [List.length_cons, hlen], ?_⟩
    rintro (_ | i) hi
    · exact ⟨slot, rfl, hslot⟩
    · obtain ⟨slot', hget, hrow⟩ := hslots i (Nat.lt_of_succ_lt_succ hi)
      refine ⟨slot', by rw [List.getElem?_cons_succ, hget], ?_⟩
      rw [← hrow]
      rcases Nat.lt_or_ge n rows.length with hlt | hge
      · rw [Nat.min_eq_left hlt]
        congr 2
        omega
      · -- after the end both positions are behind the last row
        rw [List.getElem?_eq_none (by omega), List.getElem?_eq_none (by omega)]

/-- The calls return when every row can be formed. -/
theorem iterateTimes_returns (hok : env.AllOk) {n : Nat}
    (h : BeforeCall pg env rows fsstate₀ n fsstate w)
    (hform : ∀ row ∈ rows, ∃ tuple, tupleOfRow pg fsstate₀ row = .ok tuple) (m : Nat) :
    ∃ r w', iterateTimes pg env m fsstate w = .ok r w' := by
  induction m generalizing n fsstate w with
  | zero => exact ⟨_, _, rfl⟩
  | succ m ih =>
    have hat := h.scanAt
    rw [← h.same.tupleOfRow_eq] at hat hform
    obtain ⟨⟨fsstate₁, slot⟩, w₁, hiterate⟩ := iterate_returns hok h.result hat hform
    rw [h.same.tupleOfRow_eq] at hform
    obtain ⟨⟨fsstate₂, slots⟩, w₂, hrest⟩ := ih (h.step hok hiterate).2
    rw [iterateTimes, Proc.bind_of_ok hiterate]
    dsimp only
    rw [Proc.bind_of_ok hrest]
    exact ⟨_, _, rfl⟩

/-! ## A scan from its begin -/

theorem describeColumns_length {tbStmt : TbStatement} {l : List Nat} {table : List TbColumn}
    (h : describeColumns env tbStmt l w = .ok table w') : table.length = l.length := by
  induction l generalizing table w with
  | nil =>
    cases h
    rfl
  | cons i rest ih =>
    obtain ⟨column, w₁, -, h⟩ := Proc.bind_eq_ok.mp h
    obtain ⟨columns, w₂, hrest, h⟩ := Proc.bind_eq_ok.mp h
    cases h
    rw [List.length_cons, List.length_cons, ih hrest]

/-- A statement that was prepared has the columns of its text. -/
theorem tbSqlNumResultCols_prepared {tbStmt : TbStatement} {sql : Text} {w₁ : World} {u : Unit}
    (hprepare : tbSqlPrepare env tbStmt sql w = .ok u w₁) {resColCnt : Nat}
    (hcount : tbSqlNumResultCols env tbStmt w₁ = .ok resColCnt w') :
    resColCnt = (env.describe sql).length := by
  obtain ⟨hrc, rfl⟩ := tbCall_eq_ok.mp hprepare
  rw [tbSqlNumResultCols, Proc.read_bind_run] at hcount
  obtain ⟨_, w₂, -, hcount⟩ := Proc.bind_eq_ok.mp hcount
  cases hcount
  rw [World.called_stmts hrc, SqlCall.effect, setStmt, if_pos rfl]

/-- A scan that has begun has a buffer for each column of its query. -/
theorem tiberoBeginForeignScan_table {rel : Relation} {user : UserMapping} {fsplan : ForeignScan}
    (h : tiberoBeginForeignScan pg env rel user false fsplan w = .ok (some fsstate) w') :
    fsstate.tupdesc = rel.tupdesc ∧ fsstate.retrievedAttrs = fsplan.retrievedAttrs ∧
      fsstate.table.length = (env.describe fsplan.selectSql).length := by
  rw [tiberoBeginForeignScan, if_neg (by decide), setSleepOnSigOn, Proc.modify_bind_run] at h
  obtain ⟨tbStmt, w₁, -, h⟩ := Proc.bind_eq_ok.mp h
  obtain ⟨_, w₂, hprepare, h⟩ := Proc.bind_eq_ok.mp h
  obtain ⟨resColCnt, w₃, hcnt, h⟩ := Proc.bind_eq_ok.mp h
  obtain ⟨table, w₄, htable, h⟩ := Proc.bind_eq_ok.mp h
  rw [Proc.read_bind_run] at h
  obtain ⟨_, w₅, -, h⟩ := Proc.bind_eq_ok.mp h
  obtain ⟨_, w₆, -, h⟩ := Proc.bind_eq_ok.mp h
  obtain ⟨_, w₇, -, h⟩ := Proc.bind_eq_ok.mp h
  obtain ⟨_, w₈, -, h⟩ := Proc.bind_eq_ok.mp h
  cases h
  refine ⟨rfl, rfl, ?_⟩
  change table.length = _
  rw [describeColumns_length htable, List.length_range, tbSqlNumResultCols_prepared hprepare hcnt]

/-- The slots of `m` calls: that of the `i`-th call is for the `i`-th row. -/
def SlotsOfRows (pg : Postgres) (tupdesc : TupleDesc) (retrievedAttrs : List Int)
    (rows : List Row) (m : Nat) (slots : List (Option HeapTuple)) : Prop :=
  slots.length = m ∧ ∀ i < m, ∃ slot, slots[i]? = some slot ∧
    SlotOf pg tupdesc retrievedAttrs rows[i]? slot

/-- What `m` calls return after a scan has begun: the slot of the `i`-th call is
that of the `i`-th row, and the calls do return when the cells can be converted. -/
def ReturnsRows (pg : Postgres) (env : Environment) (tupdesc : TupleDesc)
    (retrievedAttrs : List Int) (rows : List Row) (fsstate : TbFdwScanState) (w : World) (m : Nat) :
    Prop :=
  (∀ fsstate' slots w', iterateTimes pg env m fsstate w = .ok (fsstate', slots) w' →
    SlotsOfRows pg tupdesc retrievedAttrs rows m slots) ∧
  ((∀ row ∈ rows, Convertible pg tupdesc retrievedAttrs row) →
    ∃ r w', iterateTimes pg env m fsstate w = .ok r w')

/-- A scan that has begun stands before its first call. -/
theorem BeforeCall.of_begin {rel : Relation} {user : UserMapping} {fsplan : ForeignScan}
    (hbegin : tiberoBeginForeignScan pg env rel user false fsplan w = .ok (some fsstate) w')
    (hsize : 1 ≤ fsstate.fetchSize) (hresult : env.result w'.trace.length = rows) :
    BeforeCall pg env rows fsstate 0 fsstate w' := by
  have hin : InScan pg rows fsstate (ScanRun.start fsstate) w' :=
    tiberoBeginForeignScan_ok hbegin hsize
  obtain ⟨n, hat, hreturned, -⟩ := hin.position
  -- a scan starts before the first row
  have hzero : n = 0 := by
    have hlen := congrArg List.length hreturned
    have hle := hat.le_length
    simp only [ScanRun.start, List.map_nil, List.length_nil, List.length_map,
      List.length_take] at hlen
    omega
  rw [hzero] at hat
  exact ⟨SameScan.refl fsstate, hin.size, fun _ => hresult, hat⟩

/-- **Materialisation**: the calls return the tuples of the rows, whatever the size of the batches
is, and empty slots after the last row. -/
theorem BeforeCall.returnsRows (hok : env.AllOk)
    (hstart : BeforeCall pg env rows fsstate 0 fsstate w) (hnodup : fsstate.retrievedAttrs.Nodup)
    (hrange : ∀ attnum ∈ fsstate.retrievedAttrs, 1 ≤ attnum ∧ attnum ≤ fsstate.tupdesc.length)
    (hcols : fsstate.retrievedAttrs.length ≤ fsstate.table.length) (m : Nat) :
    ReturnsRows pg env fsstate.tupdesc fsstate.retrievedAttrs rows fsstate w m := by
  constructor
  · rintro fsstate' slots w' hrun
    obtain ⟨hlen, hslots⟩ := iterateTimes_slots hok hstart hrun
    refine ⟨hlen, fun i hi => ?_⟩
    obtain ⟨slot, hget, hrow⟩ := hslots i hi
    rw [Nat.zero_add] at hrow
    refine ⟨slot, hget, ?_⟩
    rcases slot with _ | tuple
    · -- no row is left
      rw [Option.map_none, Option.map_eq_none_iff] at hrow
      rw [hrow]
      exact .afterLast
    · obtain ⟨row, hrow, htuple⟩ := Option.map_eq_some_iff.mp hrow
      rw [hrow]
      exact .row (isTupleOf_of_tupleOfRow hnodup htuple)
  · intro hconv
    apply iterateTimes_returns hok hstart
    intro row hrow
    exact tupleOfRow_returns hrange hcols (hconv row hrow)

end

end TiberoFdw
