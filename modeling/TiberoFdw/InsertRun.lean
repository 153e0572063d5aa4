import TiberoFdw.Inserts

/-!
# The rows of an INSERT

An INSERT is a run: `tiberoBeginForeignModify`, a call of
`tiberoExecForeignInsert` for every row, and `tiberoEndForeignModify`. The first
call executes, and `TbSQLExecute` marks the statement as executed. The callback
executes only a statement without that mark, and nothing in the run takes the
mark away: the rows after the first one are bound, but never sent
(`receivesRows_iff`).
-/

namespace TiberoFdw

/-- A whole INSERT. -/
def insertRun (pg : Postgres) (env : Environment) (rel : Relation) (user : UserMapping)
    (plan : FdwModifyPrivate) (rows : List TupleTableSlot) : Fdw Unit := do
  match ← tiberoBeginForeignModify pg env rel user false plan with
  | some fmstate => insertRows pg env fmstate rows
  | none => pure ()

/-- The text of the plan was executed with the parameters of the row. -/
def Received (pg : Postgres) (tupdesc : TupleDesc) (plan : FdwModifyPrivate)
    (slot : TupleTableSlot) (receipt : Text × List (Nat × Option Text)) : Prop :=
  receipt.1 = plan.query ∧ receipt.2.Perm (rowParams pg tupdesc slot)

/-- The run returns, and the remote side has received the rows, one execution for
each of them, in order. -/
def ReceivesRows (context : DeparseContext) (env : Environment) (user : UserMapping)
    (rtindex : Nat) (rows : List TupleTableSlot) (w₀ : World) : Prop :=
  ∃ plan s, tiberoPlanForeignModify context .insert rtindex RemoteSqlInfo.start =
      .ok (some plan) s ∧
    ∃ w', insertRun context.pg env (context.root.rtFetch rtindex) user plan rows w₀ = .ok () w' ∧
      List.Forall₂ (Received context.pg (context.root.rtFetch rtindex).tupdesc plan) rows
        (w'.receipts.received.drop w₀.remote.executed)

section

variable {pg : Postgres} {env : Environment} {rel : Relation} {user : UserMapping}
  {plan : FdwModifyPrivate} {fmstate fmstate' : TbFdwExecState} {w w' w₀ : World}

/-! ## The beginning and the end -/

/-- A modification that has begun. -/
structure Begun (pg : Postgres) (rel : Relation) (plan : FdwModifyPrivate)
    (fmstate : TbFdwExecState) (w₀ w : World) : Prop where
  prepared : Prepared pg rel.tupdesc plan fmstate
  queryExecuted : fmstate.tbStmt.queryExecuted = false
  params : (w.stmts fmstate.tbStmt.hstmt).params = []
  text : w.receipts.prepared fmstate.tbStmt.hstmt = plan.query
  executed : w.receipts.received.length = w₀.remote.executed

theorem tiberoBeginForeignModify_ok (hok : env.AllOk) {r : Option TbFdwExecState}
    (h : tiberoBeginForeignModify pg env rel user false plan w₀ = .ok r w) :
    ∃ fmstate, r = some fmstate ∧ Begun pg rel plan fmstate w₀ w := by
  rw [tiberoBeginForeignModify, if_neg (by decide), setSleepOnSigOn, Proc.modify_bind_run] at h
  obtain ⟨w₁, hserver, hdel, -⟩ := getForeignServer_run env user.serverid
    { w₀ with useSleepOnSig := true }
  rw [Proc.bind_of_ok hserver] at h
  obtain ⟨tbStmt, w₂, hget, h⟩ := Proc.bind_eq_ok.mp h
  obtain ⟨_, w₃, hprepare, h⟩ := Proc.bind_eq_ok.mp h
  cases h
  obtain ⟨hparams, hexecuted⟩ := getTbStatement_fresh hok hget
  obtain ⟨hrc, rfl⟩ := tbCall_eq_ok.mp hprepare
  refine ⟨_, rfl, ⟨rfl, rfl⟩, rfl, ?_, ?_, ?_⟩
  · rw [World.called_params rfl]
    exact hparams
  · change (World.receipts (w₂.called env _)).prepared tbStmt.hstmt = _
    rw [World.called_receipts hrc]
    exact Remote.set_same ..
  · change (World.receipts (w₂.called env _)).received.length = _
    rw [World.called_receipts hrc]
    change w₂.receipts.received.length = _
    rw [World.length_received, hexecuted, World.remote, hdel.trace]
    rfl

theorem tiberoBeginForeignModify_raisesOnly (hok : env.AllOk) :
    Proc.RaisesOnly (BadOption pg env)
      (tiberoBeginForeignModify pg env rel user false plan) := by
  rw [tiberoBeginForeignModify, if_neg (by decide)]
  refine Proc.RaisesOnly.bind (Proc.RaisesOnly.modify _) fun _ => ?_
  refine Proc.RaisesOnly.bind (getForeignServer_raisesOnly _) fun _ => ?_
  refine Proc.RaisesOnly.bind (getTbStatement_raisesOnly hok _ _ _) fun _ => ?_
  refine Proc.RaisesOnly.bind (tbCall_raisesOnly hok _) fun _ => ?_
  exact Proc.RaisesOnly.bind (Proc.RaisesOnly.modify _) fun _ => Proc.RaisesOnly.pure _

theorem tiberoEndForeignModify_ok {u : Unit}
    (h : tiberoEndForeignModify env (some fmstate) w = .ok u w') : w'.receipts = w.receipts := by
  rw [tiberoEndForeignModify, setSleepOnSigOn, Proc.modify_bind_run] at h
  obtain ⟨_, w₁, hfree, h⟩ := Proc.bind_eq_ok.mp h
  cases h
  obtain ⟨-, rfl⟩ := tbCall_eq_ok.mp hfree
  exact World.called_receipts_of_sendsNothing rfl

theorem tiberoEndForeignModify_raisesOnly {E : PgError → Prop} (hok : env.AllOk) :
    Proc.RaisesOnly E (tiberoEndForeignModify env (some fmstate)) :=
  Proc.RaisesOnly.bind (Proc.RaisesOnly.modify _) fun _ =>
    Proc.RaisesOnly.bind (tbCall_raisesOnly hok _) fun _ => Proc.RaisesOnly.modify _

/-! ## The rows -/

/-- A statement that is marked as executed. -/
structure Spent (tupdesc : TupleDesc) (receipts : Receipts) (fmstate : TbFdwExecState)
    (w : World) : Prop where
  targetAttrs : fmstate.targetAttrs = insertTargets tupdesc
  queryExecuted : fmstate.tbStmt.queryExecuted = true
  receipts : w.receipts = receipts

/-- A row after the first one is not sent. -/
theorem Spent.row {tupdesc : TupleDesc} {receipts : Receipts} {slot : TupleTableSlot}
    (h : Spent tupdesc receipts fmstate w) (hslot : slot.ttsTupleDescriptor = tupdesc)
    (hrun : insertRow pg env slot fmstate w = .ok fmstate' w') :
    Spent tupdesc receipts fmstate' w' := by
  obtain ⟨⟨fmstate₁, accesses⟩, w₁, hexec, hrun⟩ := Proc.bind_eq_ok.mp hrun
  cases hrun
  obtain ⟨w₂, hinserted⟩ := tiberoExecForeignInsert_ok h.targetAttrs hslot hexec
  obtain ⟨rfl, htrace⟩ := hinserted.executed h.queryExecuted
  refine ⟨h.targetAttrs, h.queryExecuted, ?_⟩
  rw [World.receipts, htrace, ← World.receipts, hinserted.bound.receipts, h.receipts]

/-- The rows after the first one are not sent. -/
theorem Spent.rows {tupdesc : TupleDesc} {receipts : Receipts} {rows : List TupleTableSlot}
    (h : Spent tupdesc receipts fmstate w)
    (hrows : ∀ slot ∈ rows, slot.ttsTupleDescriptor = tupdesc)
    (hrun : Proc.fold (insertRow pg env) rows fmstate w = .ok fmstate' w') :
    w'.receipts = receipts :=
  (Proc.fold_ok (I := fun fmstate w => Spent tupdesc receipts fmstate w)
    (fun _ _ _ _ _ hslot h hrun => h.row hslot hrun)
    (Proc.StepsMeet.of_forall hrows fmstate w) h hrun).receipts

/-- The first row is sent, as it is bound. -/
theorem Begun.firstRow {slot : TupleTableSlot} (h : Begun pg rel plan fmstate w₀ w)
    (htargets : plan.targetAttrs = insertTargets rel.tupdesc)
    (hslot : slot.ttsTupleDescriptor = rel.tupdesc)
    (hrun : insertRow pg env slot fmstate w = .ok fmstate' w') :
    ∃ receipts params, Spent rel.tupdesc receipts fmstate' w' ∧
      receipts.received.drop w₀.remote.executed = [(plan.query, params)] ∧
      (params.Perm (rowParams pg rel.tupdesc slot) ↔ InsertsPlainly rel.tupdesc) := by
  obtain ⟨⟨fmstate₁, accesses⟩, w₁, hexec, hrun⟩ := Proc.bind_eq_ok.mp hrun
  cases hrun
  have htargets' := h.prepared.targetAttrs.trans htargets
  obtain ⟨w₂, hinserted⟩ := tiberoExecForeignInsert_ok htargets' hslot hexec
  obtain ⟨rfl, hrc, htrace⟩ := hinserted.executes h.queryExecuted
  have hbound := hinserted.bound
  have hreceipts : w'.receipts =
      { w.receipts with
        received := w.receipts.received ++
          [(plan.query, w₂.paramValues fmstate.tbStmt.hstmt)] } := by
    rw [World.receipts, htrace, ← World.receipts, World.called_receipts hrc, hbound.receipts,
      Receipts.effect, h.text]
  -- the statement had no parameters before: the values are those of the row
  have hvalues : w₂.paramValues fmstate.tbStmt.hstmt =
      (insertBindings pg fmstate.pFlinfo slot (liveColumns rel.tupdesc) 0).reverse := by
    rw [World.paramValues, hbound.params, h.params, List.append_nil, List.map_reverse,
      textSources_values]
  refine ⟨_, _, ⟨htargets', rfl, hreceipts⟩, List.drop_left' h.executed, ?_⟩
  rw [hvalues, (List.reverse_perm _).congr_left, h.prepared.pFlinfo,
    htargets, insertBindings_perm_iff]
  constructor
  · rintro ⟨hdropped, hstored⟩
    exact ⟨hdropped, hstored, fun c hc => hbound.known c hc (hstored c hc)⟩
  · exact fun hplain => ⟨hplain.droppedLast, hplain.stored⟩

/-- What is sent when a run over some rows ends. -/
theorem Begun.run_received {slot : TupleTableSlot} {rows : List TupleTableSlot} {u : Unit}
    (h : Begun pg rel plan fmstate w₀ w) (htargets : plan.targetAttrs = insertTargets rel.tupdesc)
    (hrows : ∀ s ∈ slot :: rows, s.ttsTupleDescriptor = rel.tupdesc)
    (hrun : insertRows pg env fmstate (slot :: rows) w = .ok u w') :
    ∃ params, w'.receipts.received.drop w₀.remote.executed = [(plan.query, params)] ∧
      (params.Perm (rowParams pg rel.tupdesc slot) ↔ InsertsPlainly rel.tupdesc) := by
  obtain ⟨fmstate₂, w₂, hfold, hend⟩ := Proc.bind_eq_ok.mp hrun
  obtain ⟨fmstate₁, w₁, hfirst, hrest⟩ := Proc.bind_eq_ok.mp hfold
  obtain ⟨receipts, params, hspent, hreceived, hperm⟩ :=
    h.firstRow htargets (hrows slot (List.mem_cons_self ..)) hfirst
  have hsame := hspent.rows (fun s hs => hrows s (List.mem_cons_of_mem _ hs)) hrest
  refine ⟨params, ?_, hperm⟩
  rw [tiberoEndForeignModify_ok hend, hsame, hreceived]

/-- Beginning a modification from its plan. -/
theorem insertRun_begin (hok : env.AllOk) (hvalid : env.OptionsValid pg) (rel : Relation)
    (user : UserMapping) (plan : FdwModifyPrivate) (w₀ : World) :
    ∃ fmstate w, Begun pg rel plan fmstate w₀ w ∧ ∀ rows,
      insertRun pg env rel user plan rows w₀ = insertRows pg env fmstate rows w := by
  rcases hbegin : tiberoBeginForeignModify pg env rel user false plan w₀ with ⟨r, w⟩ | ⟨e, w⟩
  · obtain ⟨fmstate, rfl, hbegun⟩ := tiberoBeginForeignModify_ok hok hbegin
    refine ⟨fmstate, w, hbegun, fun rows => ?_⟩
    rw [insertRun, Proc.bind_of_ok hbegin]
  · exact absurd hvalid (tiberoBeginForeignModify_raisesOnly hok _ _ _ hbegin).2

theorem ReceivesRows.atMostOne {context : DeparseContext} {rtindex : Nat}
    {rows : List TupleTableSlot} (hok : env.AllOk) (hvalid : env.OptionsValid context.pg)
    (hrows : ∀ slot ∈ rows, slot.ttsTupleDescriptor = (context.root.rtFetch rtindex).tupdesc)
    (h : ReceivesRows context env user rtindex rows w₀) :
    rows = [] ∨ rows.length = 1 ∧ InsertsPlainly (context.root.rtFetch rtindex).tupdesc := by
  obtain ⟨s, hplan⟩ := tiberoPlanForeignModify_run context rtindex
  obtain ⟨plan, s', hplan', w', hrun, hreceived⟩ := h
  cases hplan.symm.trans hplan'
  obtain ⟨fmstate, w, hbegun, hbegin⟩ :=
    insertRun_begin hok hvalid (context.root.rtFetch rtindex) user _ w₀
  rw [hbegin] at hrun
  rcases rows with _ | ⟨slot, rest⟩
  · exact .inl rfl
  · obtain ⟨params, hdrop, hperm⟩ := hbegun.run_received rfl hrows hrun
    rw [hdrop] at hreceived
    cases hreceived with
    | cons hfirst hrest =>
      cases hrest
      exact .inr ⟨rfl, hperm.mp hfirst.2⟩

/-- **Which rows arrive**: all of them exactly when there is none, or a single one
for columns that are bound where they stand. The second row of a statement is never sent, as
`query_executed` stays set after the first, so that an INSERT of many rows loses all but one. -/
theorem receivesRows_iff (context : DeparseContext) {env : Environment} (hok : env.AllOk)
    (hvalid : env.OptionsValid context.pg) (user : UserMapping) (rtindex : Nat)
    {rows : List TupleTableSlot}
    (hrows : ∀ slot ∈ rows, slot.ttsTupleDescriptor = (context.root.rtFetch rtindex).tupdesc)
    (w₀ : World) :
    ReceivesRows context env user rtindex rows w₀ ↔
      rows = [] ∨ rows.length = 1 ∧ InsertsPlainly (context.root.rtFetch rtindex).tupdesc := by
  refine ⟨ReceivesRows.atMostOne hok hvalid hrows, ?_⟩
  obtain ⟨s, hplan⟩ := tiberoPlanForeignModify_run context rtindex
  obtain ⟨fmstate, w, hbegun, hbegin⟩ :=
    insertRun_begin hok hvalid (context.root.rtFetch rtindex) user
      ⟨insertText context (context.root.rtFetch rtindex)
        (liveColumns (context.root.rtFetch rtindex).tupdesc),
      insertTargets (context.root.rtFetch rtindex).tupdesc⟩ w₀
  rintro (rfl | ⟨hlen, hplain⟩)
  · obtain ⟨u, w', hend⟩ := (tiberoEndForeignModify_raisesOnly hok).returns w
    refine ⟨_, s, hplan, w', (hbegin []).trans hend, ?_⟩
    rw [tiberoEndForeignModify_ok hend, List.drop_of_length_le (Nat.le_of_eq hbegun.executed)]
    exact .nil
  · obtain ⟨slot, rfl⟩ := List.length_eq_one_iff.mp hlen
    -- with all types known, no call of the row fails
    have hrow : Proc.RaisesOnly (fun _ => False) (insertRow context.pg env slot fmstate) :=
      Proc.RaisesOnly.bind (tiberoExecForeignInsert_raisesOnly hok hbegun.prepared.targetAttrs
        (hrows slot (List.mem_cons_self ..)) hplain.known) fun _ => Proc.RaisesOnly.pure _
    have hall : Proc.RaisesOnly (fun _ => False) (insertRows context.pg env fmstate [slot]) :=
      Proc.RaisesOnly.bind (Proc.RaisesOnly.bind hrow fun _ => Proc.RaisesOnly.pure _)
        fun _ => tiberoEndForeignModify_raisesOnly hok
    obtain ⟨u, w', hrun⟩ := hall.returns w
    obtain ⟨params, hdrop, hperm⟩ := hbegun.run_received rfl hrows hrun
    refine ⟨_, s, hplan, w', (hbegin [slot]).trans hrun, ?_⟩
    rw [hdrop]
    exact .cons ⟨rfl, hperm.mpr hplain⟩ .nil

end

/-- A row of the table with one text column. -/
def textSlot (text : String) : TupleTableSlot := ⟨textTable.tupdesc, [some (.cstring text.toList)]⟩

/-- A single row arrives. -/
theorem singleRow_received :
    ReceivesRows (insertContext textTable) Environment.succeeding UserMapping.sample 1
      [textSlot "x"] World.start :=
  (receivesRows_iff (insertContext textTable) Environment.succeeding_allOk
    (fun _ _ _ h => by cases h) UserMapping.sample 1 (by simp [textSlot, insertContext])
    World.start).mpr
    (.inr ⟨rfl, by decide, by decide, by decide⟩)

/-- Of two rows, the second one is lost. -/
theorem twoRows_not_received :
    ¬ ReceivesRows (insertContext textTable) Environment.succeeding UserMapping.sample 1
      [textSlot "x", textSlot "y"] World.start := by
  intro h
  have h := h.atMostOne Environment.succeeding_allOk (fun _ _ _ h => by cases h)
    (by simp [textSlot, insertContext])
  simp at h

end TiberoFdw
