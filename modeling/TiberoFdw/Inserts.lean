import TiberoFdw.Modify

/-!
# The rows that an INSERT sends

One call of `tiberoExecForeignInsert` binds parameters by **attribute number** and
skips generated columns, while the text numbers its markers by position. The two
agree exactly when the columns are numbered without a gap and none of them is
generated (`insertAligned_iff`).

What a whole run sends is computed from the trace (`World.receipts`).
-/

namespace TiberoFdw

/-! ## What the remote side receives -/

/-- The executions of prepared statements: text and parameters of each. -/
structure Receipts where
  prepared : Handle → Text
  received : List (Text × List (Nat × Option Text))

namespace Receipts

/-- Before the first call. -/
def initial : Receipts := ⟨fun _ => [], []⟩

/-- What a successful call does. -/
def effect (r : Receipts) : SqlCall → Receipts
  | .prepare hstmt sql => { r with prepared := Remote.set r.prepared hstmt sql }
  | .execute hstmt params => { r with received := r.received ++ [(r.prepared hstmt, params)] }
  | _ => r

/-- One call of the trace. -/
def step (r : Receipts) (issued : Issued) : Receipts :=
  if sqlSucceeded issued.rc then r.effect issued.call else r

/-- The receipts of a trace. -/
def ofTrace (trace : List Issued) : Receipts := trace.foldl step initial

end Receipts

/-- What was received in a world. -/
def World.receipts (w : World) : Receipts := Receipts.ofTrace w.trace

/-- A call that neither prepares nor executes a statement. -/
def SqlCall.sendsNothing : SqlCall → Bool
  | .prepare _ _ => false
  | .execute _ _ => false
  | _ => true

section

variable {env : Environment} {w w' : World}

theorem World.issued_receipts (call : SqlCall) (rc : SqlReturn) :
    (w.issued env call rc).receipts = w.receipts.step ⟨call, rc⟩ := by
  rw [World.receipts, World.issued, Receipts.ofTrace, List.foldl_append]
  rfl

theorem World.called_receipts {call : SqlCall} (hrc : sqlSucceeded (w.nextRc env) = true) :
    (w.called env call).receipts = w.receipts.effect call := by
  rw [World.called, World.issued_receipts, Receipts.step, if_pos hrc]

theorem World.called_receipts_of_sendsNothing {call : SqlCall} (h : call.sendsNothing = true) :
    (w.called env call).receipts = w.receipts := by
  rw [World.called, World.issued_receipts, Receipts.step]
  split_ifs
  · cases call <;> first | rfl | cases h
  · rfl

theorem Receipts.length_effect {r : Receipts} {remote : Remote}
    (h : r.received.length = remote.executed) (call : SqlCall) :
    (r.effect call).received.length = (remote.effect call).executed := by
  cases call with
  | execute hstmt params =>
    rw [Receipts.effect, List.length_append, h, Remote.effect]
    dsimp only
    split_ifs <;> rfl
  | allocHandle handleType => cases handleType <;> exact h
  | endTran hdbc completionType => cases completionType <;> exact h
  | setConnectAttr hdbc attr value =>
    rw [Remote.effect]
    split_ifs <;> exact h
  | _ => exact h

/-- The executions are counted. -/
theorem World.length_received (w : World) :
    w.receipts.received.length = w.remote.executed := by
  have h : ∀ (trace : List Issued) (r : Receipts) (remote : Remote),
      r.received.length = remote.executed →
      (trace.foldl Receipts.step r).received.length =
        (trace.foldl Remote.step remote).executed := by
    intro trace
    induction trace with
    | nil => exact fun _ _ h => h
    | cons issued rest ih =>
      intro r remote h
      apply ih _ _
      rw [Receipts.step, Remote.step]
      split_ifs
      · exact Receipts.length_effect h issued.call
      · exact h
  exact h w.trace _ _ rfl

/-! ## Binding one row -/

/-- The parameters that are bound for the columns. -/
def insertBindings (pg : Postgres) (pFlinfo : List Oid) (slot : TupleTableSlot) :
    List (FormPgAttribute × Nat) → Nat → List (Nat × Option Text)
  | [], _ => []
  | (attr, a) :: rest, findex =>
    if attr.attgenerated then insertBindings pg pFlinfo slot rest findex
    else (a, (slotGetattr slot a).map (pg.outputFunctionCall ((pFlinfo[findex]?).getD 0))) ::
      insertBindings pg pFlinfo slot rest (findex + 1)

/-- The accesses to the arrays for the columns. -/
def insertAccesses : List (FormPgAttribute × Nat) → Nat → List (InsertArray × Nat)
  | [], _ => []
  | (attr, a) :: rest, pindex =>
    if attr.attgenerated then insertAccesses rest pindex
    else (.isnull, a - 1) :: (.pValues, pindex) :: (.inds, pindex) ::
      insertAccesses rest (pindex + 1)

/-- Parameters that are bound to strings. -/
def textSources (params : List (Nat × Option Text)) : List (Nat × ParamSource) :=
  params.map fun param => (param.1, .text param.2)

/-- The parameters of a statement that the calls bind. -/
def boundOn (hstmt : Handle) (calls : List Issued) : List (Nat × ParamSource) :=
  calls.filterMap fun issued =>
    match issued.call with
    | .bindParameter h paramNo _ source => if h = hstmt then some (paramNo, source) else none
    | _ => none

/-- The loop has bound the parameters. -/
structure Bound (pg : Postgres) (fmstate : TbFdwExecState) (slot : TupleTableSlot)
    (columns : List (FormPgAttribute × Nat)) (findex : Nat) (w w' : World) : Prop where
  calls : ∃ calls, w'.trace = w.trace ++ calls ∧
    boundOn fmstate.tbStmt.hstmt calls =
      textSources (insertBindings pg fmstate.pFlinfo slot columns findex)
  params : (w'.stmts fmstate.tbStmt.hstmt).params =
    (textSources (insertBindings pg fmstate.pFlinfo slot columns findex)).reverse ++
      (w.stmts fmstate.tbStmt.hstmt).params
  receipts : w'.receipts = w.receipts
  /-- the types of the columns that are bound are known -/
  known : ∀ c ∈ columns, c.1.attgenerated = false → (tbTypeOf c.1.atttypid).isSome = true

theorem getTbTypeFromPgType_ok {type : Oid} {t : Int}
    (h : getTbTypeFromPgType type w = .ok t w') : tbTypeOf type = some t ∧ w' = w := by
  rw [getTbTypeFromPgType] at h
  rcases htype : tbTypeOf type with _ | t'
  · rw [htype] at h
    cases h
  · rw [htype] at h
    cases h
    exact ⟨rfl, rfl⟩

/-- A parameter is bound when its type is known. -/
theorem tbSqlBindParameter_ok {tbStmt : TbStatement} {paramNo : Nat} {type : Oid}
    {source : ParamSource} {u : Unit}
    (h : tbSqlBindParameter env tbStmt paramNo type source w = .ok u w') :
    ∃ t, tbTypeOf type = some t ∧ sqlSucceeded (w.nextRc env) = true ∧
      w' = w.called env (.bindParameter tbStmt.hstmt paramNo t source) := by
  rw [tbSqlBindParameter] at h
  obtain ⟨t, w₁, hget, hcall⟩ := Proc.bind_eq_ok.mp h
  obtain ⟨htype, rfl⟩ := getTbTypeFromPgType_ok hget
  obtain ⟨hrc, rfl⟩ := tbCall_eq_ok.mp hcall
  exact ⟨t, htype, hrc, rfl⟩

/-- The value of a column, as a string. -/
def boundValue (pg : Postgres) (pFlinfo : List Oid) (slot : TupleTableSlot) (a findex : Nat) :
    Option Text :=
  (slotGetattr slot a).map (pg.outputFunctionCall ((pFlinfo[findex]?).getD 0))

section

variable {pg : Postgres} {fmstate : TbFdwExecState} {slot : TupleTableSlot}
  {attr : FormPgAttribute} {a findex : Nat} {rest : List (FormPgAttribute × Nat)}

theorem Bound.skip (hgen : attr.attgenerated = true)
    (h : Bound pg fmstate slot rest findex w w') :
    Bound pg fmstate slot ((attr, a) :: rest) findex w w' := by
  have hbindings : insertBindings pg fmstate.pFlinfo slot ((attr, a) :: rest) findex =
      insertBindings pg fmstate.pFlinfo slot rest findex := by
    rw [insertBindings, if_pos hgen]
  refine ⟨hbindings ▸ h.calls, hbindings ▸ h.params, h.receipts, ?_⟩
  intro c hc hnot
  rcases List.mem_cons.mp hc with rfl | hc
  · rw [hgen] at hnot
    cases hnot
  · exact h.known c hc hnot

theorem Bound.bind {t : Int} (hgen : attr.attgenerated = false)
    (htype : tbTypeOf attr.atttypid = some t) (hrc : sqlSucceeded (w.nextRc env) = true)
    (h : Bound pg fmstate slot rest (findex + 1)
      (w.called env (.bindParameter fmstate.tbStmt.hstmt a t
        (.text (boundValue pg fmstate.pFlinfo slot a findex)))) w') :
    Bound pg fmstate slot ((attr, a) :: rest) findex w w' := by
  -- the binding of this column stands before those of the rest
  have hbindings : insertBindings pg fmstate.pFlinfo slot ((attr, a) :: rest) findex =
      (a, boundValue pg fmstate.pFlinfo slot a findex) ::
        insertBindings pg fmstate.pFlinfo slot rest (findex + 1) := by
    rw [insertBindings, if_neg (by simp [hgen])]
    rfl
  obtain ⟨calls, htrace, hcalls⟩ := h.calls
  refine ⟨⟨⟨.bindParameter fmstate.tbStmt.hstmt a t
    (.text (boundValue pg fmstate.pFlinfo slot a findex)), w.nextRc env⟩ :: calls, ?_, ?_⟩, ?_, ?_,
    ?_⟩
  · rw [htrace, World.called, World.issued, List.append_assoc, List.singleton_append]
  · rw [hbindings, textSources, List.map_cons, ← textSources, ← hcalls, boundOn, boundOn,
      List.filterMap_cons]
    simp only [if_true]
  · rw [h.params, World.called_stmts hrc, hbindings]
    simp [SqlCall.effect, setStmt, textSources]
  · rw [h.receipts, World.called_receipts_of_sendsNothing rfl]
  · intro c hc hnot
    rcases List.mem_cons.mp hc with rfl | hc
    · simp [htype]
    · exact h.known c hc hnot

/-- **What the loop binds.** -/
theorem bindInsertParams_ok {columns : List (FormPgAttribute × Nat)}
    (hcolumns : ∀ c ∈ columns, 1 ≤ c.2 ∧ slot.ttsTupleDescriptor[c.2 - 1]? = some c.1)
    {pindex : Nat} {accesses : List (InsertArray × Nat)}
    (h : bindInsertParams pg env fmstate slot (columns.map Prod.snd) pindex findex w =
      .ok accesses w') :
    accesses = insertAccesses columns pindex ∧ Bound pg fmstate slot columns findex w w' := by
  -- the source counts columns and parameters apart, so both counters are generalised
  induction columns generalizing pindex findex accesses w with
  | nil =>
    cases h
    exact ⟨rfl, ⟨[], by simp, rfl⟩, rfl, rfl, by simp⟩
  | cons column rest ih =>
    obtain ⟨attr, a⟩ := column
    obtain ⟨hpos, hattr⟩ := hcolumns (attr, a) (List.mem_cons_self ..)
    have hrest : ∀ c ∈ rest, 1 ≤ c.2 ∧ slot.ttsTupleDescriptor[c.2 - 1]? = some c.1 :=
      fun c hc => hcolumns c (List.mem_cons_of_mem _ hc)
    have hnum : a - 1 + 1 = a := Nat.sub_add_cancel hpos
    rw [List.map_cons, bindInsertParams] at h
    simp only [tupleDescAttr, hattr, hnum] at h
    rcases hgen : attr.attgenerated with _ | _
    · -- the column is bound
      simp only [hgen, Bool.false_eq_true, if_false] at h
      obtain ⟨_, w₁, hbind, h⟩ := Proc.bind_eq_ok.mp h
      obtain ⟨accesses', w₂, hloop, h⟩ := Proc.bind_eq_ok.mp h
      cases h
      obtain ⟨t, htype, hrc, rfl⟩ := tbSqlBindParameter_ok hbind
      obtain ⟨haccesses, hbound⟩ := ih hrest hloop
      refine ⟨?_, hbound.bind hgen htype hrc⟩
      rw [insertAccesses, if_neg (by simp [hgen]), haccesses]
    · -- the column is skipped
      simp only [hgen, if_true] at h
      obtain ⟨haccesses, hbound⟩ := ih hrest h
      refine ⟨?_, hbound.skip hgen⟩
      rw [insertAccesses, if_pos hgen, haccesses]

/-- The loop returns when every call succeeds and every type is known. -/
theorem bindInsertParams_raisesOnly {E : PgError → Prop} (hok : env.AllOk)
    {columns : List (FormPgAttribute × Nat)}
    (hcolumns : ∀ c ∈ columns, slot.ttsTupleDescriptor[c.2 - 1]? = some c.1)
    (hknown : ∀ c ∈ columns, (tbTypeOf c.1.atttypid).isSome = true) (pindex : Nat) :
    Proc.RaisesOnly E
      (bindInsertParams pg env fmstate slot (columns.map Prod.snd) pindex findex) := by
  induction columns generalizing pindex findex with
  | nil => exact Proc.RaisesOnly.pure _
  | cons column rest ih =>
    have hattr := hcolumns column (List.mem_cons_self ..)
    obtain ⟨t, htype⟩ := Option.isSome_iff_exists.mp (hknown column (List.mem_cons_self ..))
    have hrest := fun findex => @ih findex
      (fun c hc => hcolumns c (List.mem_cons_of_mem _ hc))
      (fun c hc => hknown c (List.mem_cons_of_mem _ hc))
    rw [List.map_cons, bindInsertParams]
    simp only [tupleDescAttr, hattr]
    split_ifs
    · exact hrest findex pindex
    · refine Proc.RaisesOnly.bind ?_ fun _ =>
        Proc.RaisesOnly.bind (hrest (findex + 1) (pindex + 1)) fun _ => Proc.RaisesOnly.pure _
      rw [tbSqlBindParameter, getTbTypeFromPgType, htype]
      exact Proc.RaisesOnly.bind (Proc.RaisesOnly.pure t) fun _ => tbCall_raisesOnly hok _

end

/-! ## Numbers and positions -/

/-- The parameters of a row: the marker at a position gets the value of the
column that is named there, as its own output function writes it. -/
def rowParams (pg : Postgres) (tupdesc : TupleDesc) (slot : TupleTableSlot) :
    List (Nat × Option Text) :=
  ((liveColumns tupdesc).zipIdx 1).map fun (column, position) =>
    (position, (slotGetattr slot column.2).map
      (pg.outputFunctionCall (pg.pgType column.1.atttypid).typoutput))

section

variable {pg : Postgres} {slot : TupleTableSlot} {columns : List (FormPgAttribute × Nat)}

/-- The parameters are numbered like the columns that are not generated. -/
theorem insertBindings_numbers (pFlinfo : List Oid) (findex : Nat) :
    (insertBindings pg pFlinfo slot columns findex).map Prod.fst =
      (columns.filter fun c => !c.1.attgenerated).map Prod.snd := by
  induction columns generalizing findex with
  | nil => rfl
  | cons column rest ih =>
    obtain ⟨attr, a⟩ := column
    rw [insertBindings]
    rcases hgen : attr.attgenerated with _ | _
    · rw [if_neg (by simp), List.map_cons, ih, List.filter_cons_of_pos (by simp [hgen])]
      rfl
    · rw [if_pos rfl, ih, List.filter_cons_of_neg (by simp [hgen])]

/-- Columns without a gap, none of them generated: every parameter is bound where
its column stands, and by the output function of its column. -/
theorem insertBindings_eq {pFlinfo : List Oid} {findex first : Nat}
    (hgen : ∀ c ∈ columns, c.1.attgenerated = false)
    (hnums : columns.map Prod.snd = List.range' first columns.length)
    (hflinfo : ∀ i, pFlinfo[findex + i]? =
      (columns[i]?).map fun c => (pg.pgType c.1.atttypid).typoutput) :
    insertBindings pg pFlinfo slot columns findex =
      (columns.zipIdx first).map fun (column, position) =>
        (position, (slotGetattr slot column.2).map
          (pg.outputFunctionCall (pg.pgType column.1.atttypid).typoutput)) := by
  induction columns generalizing findex first with
  | nil => rfl
  | cons column rest ih =>
    obtain ⟨attr, a⟩ := column
    rw [List.map_cons, List.length_cons, List.range'_succ, List.cons.injEq] at hnums
    obtain ⟨rfl, hnums⟩ := hnums
    have hnot : attr.attgenerated = false := hgen (attr, a) (List.mem_cons_self ..)
    have hhead : pFlinfo[findex]? = some (pg.pgType attr.atttypid).typoutput := hflinfo 0
    have hrest := @ih (findex + 1) _ (fun c hc => hgen c (List.mem_cons_of_mem _ hc)) hnums
      fun i => by
        rw [Nat.add_assoc, Nat.add_comm 1 i, hflinfo (i + 1)]
        rfl
    rw [insertBindings, if_neg (by simp [hnot]), hrest, hhead]
    rfl

end

/-- The output functions of the columns. -/
theorem insertOutputFunctions_eq (pg : Postgres) (tupdesc : TupleDesc) :
    insertOutputFunctions pg tupdesc (insertTargets tupdesc) =
      (liveColumns tupdesc).map fun c => (pg.pgType c.1.atttypid).typoutput := by
  have h : ∀ columns : List (FormPgAttribute × Nat),
      (∀ c ∈ columns, tupdesc[c.2 - 1]? = some c.1) →
      insertOutputFunctions pg tupdesc (columns.map Prod.snd) =
        columns.map fun c => (pg.pgType c.1.atttypid).typoutput := by
    intro columns hcolumns
    induction columns with
    | nil => rfl
    | cons column rest ih =>
      have hrest := ih fun c hc => hcolumns c (List.mem_cons_of_mem _ hc)
      have hattr := hcolumns column (List.mem_cons_self ..)
      rw [insertOutputFunctions] at hrest ⊢
      rw [List.map_cons, List.filterMap_cons, tupleDescAttr, hattr, hrest]
      rfl
  rw [insertTargets_eq]
  exact h _ fun c hc => (mem_liveColumns hc).2.1

/-- **When a row is bound right**: exactly when the dropped columns come last and
no column is generated. -/
theorem insertBindings_perm_iff (pg : Postgres) (tupdesc : TupleDesc) (slot : TupleTableSlot) :
    (insertBindings pg (insertOutputFunctions pg tupdesc (insertTargets tupdesc)) slot
        (liveColumns tupdesc) 0).Perm (rowParams pg tupdesc slot) ↔
      DroppedLast tupdesc ∧ ∀ c ∈ liveColumns tupdesc, c.1.attgenerated = false := by
  rw [insertOutputFunctions_eq]
  constructor
  · intro hperm
    have hnumbers := hperm.map Prod.fst
    have hpositions : (rowParams pg tupdesc slot).map Prod.fst =
        List.range' 1 (liveColumns tupdesc).length := by
      rw [rowParams, List.map_map, ← List.zipIdx_map_snd]
      rfl
    rw [insertBindings_numbers, hpositions] at hnumbers
    -- a parameter for every column: none of them is skipped
    have hlen := hnumbers.length_eq
    rw [List.length_map, List.length_range', List.length_filter_eq_length_iff] at hlen
    have hgen : ∀ c ∈ liveColumns tupdesc, c.1.attgenerated = false :=
      fun c hc => by simpa using hlen c hc
    rw [List.filter_eq_self.mpr hlen] at hnumbers
    refine ⟨liveColumns_eq_range_iff.mp ?_, hgen⟩
    -- both lists of numbers are increasing
    have hincreasing := List.pairwise_map.mpr (liveColumnsFrom_pairwise tupdesc 1)
    refine hnumbers.eq_of_pairwise ?_ hincreasing List.pairwise_lt_range'
    intro a b _ _ hab hba
    omega
  · rintro ⟨hdropped, hgen⟩
    -- without dropped and generated columns every index is right
    rw [insertBindings_eq hgen (liveColumns_eq_range_iff.mpr hdropped)]
    · exact List.Perm.refl _
    · intro i
      rw [Nat.zero_add, List.getElem?_map]

/-! ## One call -/

/-- A modification that was prepared from a plan. -/
structure Prepared (pg : Postgres) (tupdesc : TupleDesc) (plan : FdwModifyPrivate)
    (fmstate : TbFdwExecState) : Prop where
  targetAttrs : fmstate.targetAttrs = plan.targetAttrs
  pFlinfo : fmstate.pFlinfo = insertOutputFunctions pg tupdesc plan.targetAttrs

/-- A call bound the parameters of a row, and executed unless it was not to. -/
structure Inserted (env : Environment) (pg : Postgres) (tupdesc : TupleDesc)
    (fmstate fmstate' : TbFdwExecState) (slot : TupleTableSlot)
    (accesses : List (InsertArray × Nat)) (w w₁ w' : World) : Prop where
  accesses_eq : accesses = insertAccesses (liveColumns tupdesc) 0
  bound : Bound pg fmstate slot (liveColumns tupdesc) 0 w w₁
  executed : fmstate.tbStmt.queryExecuted = true → fmstate' = fmstate ∧ w'.trace = w₁.trace
  executes : fmstate.tbStmt.queryExecuted = false →
    fmstate' = { fmstate with tbStmt := { fmstate.tbStmt with queryExecuted := true } } ∧
      sqlSucceeded (w₁.nextRc env) = true ∧
      w'.trace = (w₁.called env (.execute fmstate.tbStmt.hstmt
        (w₁.paramValues fmstate.tbStmt.hstmt))).trace

variable {pg : Postgres} {tupdesc : TupleDesc} {plan : FdwModifyPrivate}
  {fmstate fmstate' : TbFdwExecState} {slot : TupleTableSlot}

theorem liveColumns_of_slot (hslot : slot.ttsTupleDescriptor = tupdesc) :
    ∀ c ∈ liveColumns tupdesc, 1 ≤ c.2 ∧ slot.ttsTupleDescriptor[c.2 - 1]? = some c.1 := by
  intro c hc
  rw [hslot]
  exact ⟨(mem_liveColumns hc).1, (mem_liveColumns hc).2.1⟩

/-- What one call does. -/
theorem tiberoExecForeignInsert_ok (htargets : fmstate.targetAttrs = insertTargets tupdesc)
    (hslot : slot.ttsTupleDescriptor = tupdesc) {accesses : List (InsertArray × Nat)}
    (h : tiberoExecForeignInsert pg env fmstate slot w = .ok (fmstate', accesses) w') :
    ∃ w₁, Inserted env pg tupdesc fmstate fmstate' slot accesses w w₁ w' := by
  rw [tiberoExecForeignInsert, setSleepOnSigOn, Proc.modify_bind_run] at h
  obtain ⟨accesses', w₁, hloop, h⟩ := Proc.bind_eq_ok.mp h
  rw [htargets, insertTargets_eq] at hloop
  obtain ⟨haccesses, hbound⟩ := bindInsertParams_ok (liveColumns_of_slot hslot) hloop
  have hbound' : Bound pg fmstate slot (liveColumns tupdesc) 0 w w₁ :=
    ⟨hbound.calls, hbound.params, hbound.receipts, hbound.known⟩
  obtain ⟨tbStmt, w₂, hexecute, h⟩ := Proc.bind_eq_ok.mp h
  cases h
  refine ⟨w₁, haccesses, hbound', fun hdone => ?_, fun hnot => ?_⟩
  · rw [executeUnlessExecuted, if_pos hdone] at hexecute
    cases hexecute
    exact ⟨rfl, rfl⟩
  · rw [executeUnlessExecuted, if_neg (by simp [hnot])] at hexecute
    obtain ⟨hrc, rfl, rfl, -⟩ := tbSqlExecute_ok hexecute
    exact ⟨rfl, hrc, rfl⟩

/-- A call returns when every driver call succeeds and every type is known. -/
theorem tiberoExecForeignInsert_raisesOnly {E : PgError → Prop} (hok : env.AllOk)
    (htargets : fmstate.targetAttrs = insertTargets tupdesc)
    (hslot : slot.ttsTupleDescriptor = tupdesc)
    (hknown : ∀ c ∈ liveColumns tupdesc, (tbTypeOf c.1.atttypid).isSome = true) :
    Proc.RaisesOnly E (tiberoExecForeignInsert pg env fmstate slot) := by
  have hloop : Proc.RaisesOnly E
      (bindInsertParams pg env fmstate slot fmstate.targetAttrs 0 0) := by
    rw [htargets, insertTargets_eq]
    exact bindInsertParams_raisesOnly hok (fun c hc => (liveColumns_of_slot hslot c hc).2) hknown 0
  have hexecute : Proc.RaisesOnly E (executeUnlessExecuted env fmstate.tbStmt) := by
    rw [executeUnlessExecuted]
    split_ifs
    · exact Proc.RaisesOnly.pure _
    · exact tbSqlExecute_raisesOnly hok _
  refine Proc.RaisesOnly.bind (Proc.RaisesOnly.modify _) fun _ => ?_
  refine Proc.RaisesOnly.bind hloop fun accesses => Proc.RaisesOnly.bind hexecute fun tbStmt => ?_
  exact Proc.RaisesOnly.bind (Proc.RaisesOnly.modify _) fun _ => Proc.RaisesOnly.pure _

/-! ## Markers and parameters -/

/-- The text names the columns, and has a marker for each of them. -/
structure TextAligned (pg : Postgres) (tupdesc : TupleDesc) (query : Text) : Prop where
  columns : ∃ relation, SqlText.tokens query =
    some (insertTokens relation (columnTokens pg (liveColumns tupdesc)))
  markers : ((SqlText.tokens query).getD []).count (.sym '?') = (liveColumns tupdesc).length

/-- The call bound every marker once, and no other one, each to the value of the
column at its position; no index left the arrays. -/
structure CallAligned (pg : Postgres) (tupdesc : TupleDesc) (slot : TupleTableSlot)
    (fmstate : TbFdwExecState) (accesses : List (InsertArray × Nat)) (w w' : World) : Prop where
  params : ∃ calls, w'.trace = w.trace ++ calls ∧
    (boundOn fmstate.tbStmt.hstmt calls).Perm (textSources (rowParams pg tupdesc slot))
  indices : ∀ access ∈ accesses, access.2 < fmstate.targetAttrs.length

/-- The text of an INSERT and every call that executes it agree, and with a
driver that succeeds the call returns. -/
def InsertAligned (context : DeparseContext) (rtindex : Nat) : Prop :=
  ∃ plan s, tiberoPlanForeignModify context .insert rtindex RemoteSqlInfo.start =
      .ok (some plan) s ∧
    TextAligned context.pg (context.root.rtFetch rtindex).tupdesc plan.query ∧
    ∀ (env : Environment) (fmstate : TbFdwExecState) (slot : TupleTableSlot) (w : World),
      Prepared context.pg (context.root.rtFetch rtindex).tupdesc plan fmstate →
      slot.ttsTupleDescriptor = (context.root.rtFetch rtindex).tupdesc →
      (env.AllOk → (tiberoExecForeignInsert context.pg env fmstate slot w).isOk = true) ∧
      ∀ fmstate' accesses w', tiberoExecForeignInsert context.pg env fmstate slot w =
          .ok (fmstate', accesses) w' →
        CallAligned context.pg (context.root.rtFetch rtindex).tupdesc slot fmstate accesses w w'

/-- Nothing stands between attribute numbers and positions, and every column can
be bound. -/
structure InsertsPlainly (tupdesc : TupleDesc) : Prop where
  droppedLast : DroppedLast tupdesc
  stored : ∀ c ∈ liveColumns tupdesc, c.1.attgenerated = false
  known : ∀ c ∈ liveColumns tupdesc, (tbTypeOf c.1.atttypid).isSome = true

theorem textAligned_insertText (context : DeparseContext) (rel : Relation) :
    TextAligned context.pg rel.tupdesc (insertText context rel (liveColumns rel.tupdesc)) := by
  have htokens := tokens_insertText context rel (liveColumns rel.tupdesc)
  refine ⟨⟨_, htokens⟩, ?_⟩
  rw [htokens, Option.getD_some, count_markers]

theorem insertAccesses_lt {columns : List (FormPgAttribute × Nat)} {n pindex : Nat}
    (hnums : ∀ c ∈ columns, c.2 - 1 < n) (hlen : pindex + columns.length ≤ n) :
    ∀ access ∈ insertAccesses columns pindex, access.2 < n := by
  induction columns generalizing pindex with
  | nil => simp [insertAccesses]
  | cons column rest ih =>
    obtain ⟨attr, a⟩ := column
    have hnum : a - 1 < n := hnums (attr, a) (List.mem_cons_self ..)
    have hrest := fun pindex => @ih pindex fun c hc => hnums c (List.mem_cons_of_mem _ hc)
    rw [List.length_cons] at hlen
    rw [insertAccesses]
    split_ifs
    · exact hrest pindex (by omega)
    · simp only [List.forall_mem_cons]
      exact ⟨hnum, by omega, by omega, hrest (pindex + 1) (by omega)⟩

/-- The calls of the run bind the parameters, and possibly execute. -/
theorem Inserted.boundOn_calls {accesses : List (InsertArray × Nat)} {w₁ : World}
    (h : Inserted env pg tupdesc fmstate fmstate' slot accesses w w₁ w') :
    ∃ calls, w'.trace = w.trace ++ calls ∧ boundOn fmstate.tbStmt.hstmt calls =
      textSources (insertBindings pg fmstate.pFlinfo slot (liveColumns tupdesc) 0) := by
  obtain ⟨calls, htrace, hcalls⟩ := h.bound.calls
  rcases hdone : fmstate.tbStmt.queryExecuted with _ | _
  · obtain ⟨-, -, htrace'⟩ := h.executes hdone
    refine ⟨calls ++ [⟨.execute fmstate.tbStmt.hstmt (w₁.paramValues fmstate.tbStmt.hstmt),
      w₁.nextRc env⟩], ?_, ?_⟩
    · rw [htrace', World.called, World.issued, htrace, List.append_assoc]
    · rw [boundOn, List.filterMap_append, ← boundOn, hcalls]
      exact List.append_nil _
  · exact ⟨calls, (h.executed hdone).2.trans htrace, hcalls⟩

/-- Strings are read as they were bound. -/
theorem textSources_values (w : World) (params : List (Nat × Option Text)) :
    ((textSources params).map fun (paramNo, source) => (paramNo, source.value w)) = params := by
  rw [textSources, List.map_map]
  exact List.map_id' params

/-- What a call binds, when it is aligned. -/
theorem CallAligned.plain {accesses : List (InsertArray × Nat)} {w₁ : World}
    (htargets : plan.targetAttrs = insertTargets tupdesc)
    (hprep : Prepared pg tupdesc plan fmstate)
    (h : Inserted env pg tupdesc fmstate fmstate' slot accesses w w₁ w')
    (haligned : CallAligned pg tupdesc slot fmstate accesses w w') : InsertsPlainly tupdesc := by
  obtain ⟨calls, htrace, hperm⟩ := haligned.params
  obtain ⟨calls', htrace', hcalls'⟩ := h.boundOn_calls
  have hsame : calls = calls' := List.append_cancel_left (htrace.symm.trans htrace')
  rw [hsame, hcalls', hprep.pFlinfo, htargets] at hperm
  have hvalues := hperm.map fun (paramNo, source) => (paramNo, source.value w)
  rw [textSources_values, textSources_values, insertBindings_perm_iff] at hvalues
  exact ⟨hvalues.1, hvalues.2, fun c hc => h.bound.known c hc (hvalues.2 c hc)⟩

theorem Inserted.callAligned {accesses : List (InsertArray × Nat)} {w₁ : World}
    (hplain : InsertsPlainly tupdesc) (htargets : plan.targetAttrs = insertTargets tupdesc)
    (hprep : Prepared pg tupdesc plan fmstate)
    (h : Inserted env pg tupdesc fmstate fmstate' slot accesses w w₁ w') :
    CallAligned pg tupdesc slot fmstate accesses w w' := by
  obtain ⟨calls, htrace, hcalls⟩ := h.boundOn_calls
  refine ⟨⟨calls, htrace, ?_⟩, ?_⟩
  · rw [hcalls, hprep.pFlinfo, htargets]
    exact ((insertBindings_perm_iff pg tupdesc slot).mpr ⟨hplain.droppedLast, hplain.stored⟩).map _
  · rw [h.accesses_eq, hprep.targetAttrs, htargets, insertTargets_eq, List.length_map]
    refine insertAccesses_lt ?_ (Nat.le_of_eq (Nat.zero_add _))
    intro c hc
    have hmem : c.2 ∈ (liveColumns tupdesc).map Prod.snd := List.mem_map.mpr ⟨c, hc, rfl⟩
    rw [liveColumns_eq_range_iff.mpr hplain.droppedLast, List.mem_range'_1] at hmem
    omega

theorem InsertAligned.plain {context : DeparseContext} {rtindex : Nat}
    (h : InsertAligned context rtindex) :
    InsertsPlainly (context.root.rtFetch rtindex).tupdesc := by
  obtain ⟨s, hplan⟩ := tiberoPlanForeignModify_run context rtindex
  obtain ⟨plan, s', hplan', -, hcalls⟩ := h
  cases hplan.symm.trans hplan'
  -- any call of the modification will do
  obtain ⟨hok, haligned⟩ := hcalls Environment.succeeding
    ⟨[], _, 0, _, TbStatement.zeroed⟩ ⟨_, []⟩ World.start ⟨rfl, rfl⟩ rfl
  obtain ⟨⟨fmstate', accesses⟩, hrun⟩ :=
    Outcome.eq_ok_of_isOk (hok Environment.succeeding_allOk)
  obtain ⟨w₁, hinserted⟩ := tiberoExecForeignInsert_ok rfl rfl hrun
  exact CallAligned.plain
    (show (FdwModifyPrivate.mk [] (insertTargets _)).targetAttrs = insertTargets _ from rfl)
    ⟨rfl, rfl⟩ hinserted (haligned _ _ _ hrun)

/-- **Placeholder alignment**: the text and the calls agree exactly when the
dropped columns come last, no column is generated, and every type is known. The calls bind by
attribute number, the text counts the columns it names, and a gap in the numbers moves all
values behind it. -/
theorem insertAligned_iff (context : DeparseContext) (rtindex : Nat) :
    InsertAligned context rtindex ↔ InsertsPlainly (context.root.rtFetch rtindex).tupdesc := by
  refine ⟨InsertAligned.plain, fun hplain => ?_⟩
  obtain ⟨s, hplan⟩ := tiberoPlanForeignModify_run context rtindex
  refine ⟨_, s, hplan, textAligned_insertText context _, fun env fmstate slot w hprep hslot =>
    ⟨fun hok => ?_, fun fmstate' accesses w' hrun => ?_⟩⟩
  · obtain ⟨r, w', hrun⟩ := (tiberoExecForeignInsert_raisesOnly hok hprep.targetAttrs hslot
      hplain.known).returns w
    rw [hrun]
    rfl
  · obtain ⟨w₁, hinserted⟩ := tiberoExecForeignInsert_ok hprep.targetAttrs hslot hrun
    exact hinserted.callAligned hplain rfl hprep

/-- An INSERT into a table. -/
def insertContext (rel : Relation) : DeparseContext :=
  ⟨Postgres.small, ⟨fun _ => rel⟩, RelOptInfo.scanOfTable, RelOptInfo.scanOfTable, false, false⟩

/-- A table whose first column was dropped. -/
def droppedFirst : Relation :=
  ⟨"t".toList, [⟨"........pg.dropped.1........".toList, 0, -1, true, false, []⟩,
    ⟨"c".toList, INT4OID, -1, false, false, []⟩], []⟩

/-- The only marker is bound as number two. -/
theorem droppedFirst_not_insertAligned : ¬ InsertAligned (insertContext droppedFirst) 1 := by
  intro h
  exact absurd h.plain.droppedLast (by decide)

end

end TiberoFdw
