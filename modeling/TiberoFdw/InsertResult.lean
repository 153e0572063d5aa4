import TiberoFdw.InsertRun
import TiberoFdw.Meaning

/-!
# A row that is inserted and read back

The two directions of a foreign table: `tiberoExecForeignInsert` writes values with the output
functions of their types, and `make_tuples` reads cells with the input functions. Between them is
the remote side, which is a parameter: `store` is the row that it adds for a statement and its
parameters.

* `StoresParams` — what is relied on: each parameter goes into its column, and the empty text is
  stored as null;
* `insertedRow_readBack` — the complete tuple of the row that is added has the values of the slot,
  except that a value whose text is empty is null afterwards.
-/

namespace TiberoFdw

/-! ## The row that is stored -/

/-- A parameter without a text: null or empty. -/
def NoText (param : Option Text) : Prop := ∀ text, param = some text → text = []

/-- The remote side stores the parameters of an INSERT into distinct columns: the `i`-th one in the
`i`-th column, null and the empty text as null, and any other text so that `fetched` is what is
fetched from the column of that table afterwards. -/
structure StoresParams {V : Type} (db : RemoteDatabase V)
    (store : InsertStmt → List (Nat × Option Text) → RemoteTuple V)
    (fetched : TableRef → Text → Text → Text) : Prop where
  null : ∀ (stmt : InsertStmt) (params : List (Nat × Option Text)) (i : Nat) name param,
    stmt.columns.Nodup → (params.map Prod.fst).Nodup → stmt.columns[i]? = some name →
    (i + 1, param) ∈ params → NoText param → (store stmt params).columns name = none
  text : ∀ (stmt : InsertStmt) (params : List (Nat × Option Text)) (i : Nat) name text,
    stmt.columns.Nodup → (params.map Prod.fst).Nodup → stmt.columns[i]? = some name →
    (i + 1, some text) ∈ params → text ≠ [] →
    ((store stmt params).columns name).map db.print = some (fetched stmt.table name text)

/-! ## The parameters of a row -/

section

variable {pg : Postgres} {tupdesc : TupleDesc} {slot : TupleTableSlot}

theorem rowParams_nodup : ((rowParams pg tupdesc slot).map Prod.fst).Nodup := by
  have hnumbers : (rowParams pg tupdesc slot).map Prod.fst =
      ((liveColumns tupdesc).zipIdx 1).map Prod.snd := by
    rw [rowParams, List.map_map]
    rfl
  rw [hnumbers, List.zipIdx_map_snd]
  exact List.nodup_range'

theorem mem_rowParams {i : Nat} {column : FormPgAttribute × Nat}
    (h : (liveColumns tupdesc)[i]? = some column) :
    (i + 1, (slotGetattr slot column.2).map
      (pg.outputFunctionCall (pg.pgType column.1.atttypid).typoutput)) ∈
        rowParams pg tupdesc slot := by
  refine List.mem_map.mpr ⟨(column, i + 1), ?_, rfl⟩
  rw [List.mk_mem_zipIdx_iff_le_and_getElem?_sub, Nat.add_sub_cancel]
  exact ⟨Nat.le_add_left 1 i, h⟩

/-- A column that is not dropped has a place in the statement. -/
theorem liveColumns_getElem? {attnum : Nat} {attr : FormPgAttribute}
    (hattr : tupdesc[attnum]? = some attr) (hdrop : attr.attisdropped = false) :
    ∃ i : Nat, (liveColumns tupdesc)[i]? = some (attr, attnum + 1) := by
  refine List.getElem?_of_mem (List.mem_filter.mpr ⟨?_, by simp [hdrop]⟩)
  rw [List.mk_mem_zipIdx_iff_le_and_getElem?_sub, Nat.add_sub_cancel]
  exact ⟨Nat.le_add_left 1 attnum, hattr⟩

end

/-! ## Reading back -/

/-- The text that a value of a column is written as. -/
def outputText (pg : Postgres) (attr : FormPgAttribute) (datum : Datum) : Text :=
  pg.outputFunctionCall (pg.pgType attr.atttypid).typoutput datum

/-- The input functions read what is fetched for the texts of the output functions. -/
def TypesReadBack (pg : Postgres) (fetched : Text → Text → Text) (tupdesc : TupleDesc)
    (slot : TupleTableSlot) : Prop :=
  ∀ (attnum : Nat) attr datum, tupdesc[attnum]? = some attr → attr.attisdropped = false →
    slotGetattr slot (attnum + 1) = some datum → outputText pg attr datum ≠ [] →
    pg.inputFunctionCall (pg.pgType attr.atttypid).typinput
      (fetched (remoteColumnName attr) (outputText pg attr datum)) attr.atttypid attr.atttypmod =
        some datum

/-- The tuple has the values of the slot; the ones without a text are null. -/
structure ReadsBack (pg : Postgres) (tupdesc : TupleDesc) (slot : TupleTableSlot)
    (tuple : HeapTuple) : Prop where
  natts : tuple.length = tupdesc.length
  dropped : ∀ (attnum : Nat) attr, tupdesc[attnum]? = some attr → attr.attisdropped = true →
    tuple[attnum]? = some none
  live : ∀ (attnum : Nat) attr, tupdesc[attnum]? = some attr → attr.attisdropped = false →
    tuple[attnum]? =
      some ((slotGetattr slot (attnum + 1)).filter fun datum => outputText pg attr datum ≠ [])

section

variable {V : Type} {pg : Postgres} {slot : TupleTableSlot} {db : RemoteDatabase V}
  {store : InsertStmt → List (Nat × Option Text) → RemoteTuple V}
  {fetched : TableRef → Text → Text → Text}

/-- **One column**: its value is written, stored and read. -/
theorem StoresParams.cellDatum (h : StoresParams db store fetched) {stmt : InsertStmt}
    {params : List (Nat × Option Text)} {i : Nat} {attr : FormPgAttribute} {value : Option Datum}
    (hnames : stmt.columns.Nodup) (hnodup : (params.map Prod.fst).Nodup)
    (hname : stmt.columns[i]? = some (remoteColumnName attr))
    (hparam : (i + 1, value.map (outputText pg attr)) ∈ params)
    (hreads : ∀ datum, value = some datum → outputText pg attr datum ≠ [] →
      pg.inputFunctionCall (pg.pgType attr.atttypid).typinput
        (fetched stmt.table (remoteColumnName attr) (outputText pg attr datum)) attr.atttypid
          attr.atttypmod = some datum) :
    TiberoFdw.cellDatum pg attr (db.cell (store stmt params) (.column (remoteColumnName attr))) =
      value.filter fun datum => outputText pg attr datum ≠ [] := by
  rw [RemoteDatabase.cell]
  by_cases hno : NoText (value.map (outputText pg attr))
  · -- nothing is stored
    rw [h.null stmt params i _ _ hnames hnodup hname hparam hno]
    refine Eq.symm (Option.filter_eq_none_iff.mpr fun datum hvalue => ?_)
    have hempty : outputText pg attr datum = [] := hno _ (by rw [hvalue]; rfl)
    simp [hempty]
  · rcases value with _ | datum
    · exact absurd (fun text htext => by cases htext) hno
    · have htext : outputText pg attr datum ≠ [] := fun hempty =>
        hno fun text heq => by rw [← Option.some_inj.mp heq, hempty]
      rw [h.text stmt params i _ _ hnames hnodup hname hparam htext, Option.filter_some,
        if_pos (by simpa using htext)]
      exact hreads datum rfl htext

/-- **The tuple of a stored row**: the parameters may be bound in any order. Each is found by its
marker, so only the pairs of numbers and texts count. -/
theorem StoresParams.readsBack (h : StoresParams db store fetched) {rel : Relation}
    {params : List (Nat × Option Text)}
    (hnames : ((liveColumns rel.tupdesc).map fun column => remoteColumnName column.1).Nodup)
    (hreads : TypesReadBack pg (fetched (remoteTable rel)) rel.tupdesc slot)
    (hparams : params.Perm (rowParams pg rel.tupdesc slot)) :
    ReadsBack pg rel.tupdesc slot (completeTuple pg db rel.tupdesc
      (store (insertStmt rel (liveColumns rel.tupdesc)) params)) where
  natts := by rw [completeTuple, List.length_map]
  dropped attnum attr hattr hdrop := by
    rw [completeTuple, List.getElem?_map, hattr, Option.map_some, if_pos hdrop]
  live attnum attr hattr hdrop := by
    obtain ⟨i, hi⟩ := liveColumns_getElem? hattr hdrop
    have hname : (insertStmt rel (liveColumns rel.tupdesc)).columns[i]? =
        some (remoteColumnName attr) := by
      rw [insertStmt, List.getElem?_map, hi]
      rfl
    have hnodup : (params.map Prod.fst).Nodup :=
      (hparams.map Prod.fst).nodup_iff.mpr rowParams_nodup
    rw [completeTuple, List.getElem?_map, hattr, Option.map_some, if_neg (by simp [hdrop]),
      h.cellDatum hnames hnodup hname (hparams.mem_iff.mpr (mem_rowParams hi)) fun datum hvalue =>
        hreads attnum attr datum hattr hdrop hvalue]

end

/-! ## The whole way -/

/-- The run of one row returns after a single execution, and the row that this execution stores is
read back. -/
def RowReadBack {V : Type} (context : DeparseContext) (env : Environment) (user : UserMapping)
    (rtindex : Nat) (slot : TupleTableSlot) (db : RemoteDatabase V)
    (store : InsertStmt → List (Nat × Option Text) → RemoteTuple V) (w₀ : World) : Prop :=
  ∃ plan s, tiberoPlanForeignModify context .insert rtindex RemoteSqlInfo.start =
      .ok (some plan) s ∧
    ∃ w' params stmt,
      insertRun context.pg env (context.root.rtFetch rtindex) user plan [slot] w₀ = .ok () w' ∧
      w'.receipts.received.drop w₀.remote.executed = [(plan.query, params)] ∧
      readInsert plan.query = some stmt ∧
      ReadsBack context.pg (context.root.rtFetch rtindex).tupdesc slot
        (completeTuple context.pg db (context.root.rtFetch rtindex).tupdesc (store stmt params))

/-- **What is inserted is read back**: the statement that was executed, read as text and with the
parameters it was executed with, stores a row whose complete tuple has the values of the slot. The
columns are bound where they stand and have names of their own, and the types read what the remote
side makes of their texts. -/
theorem insertedRow_readBack {V : Type} (context : DeparseContext) {env : Environment}
    (hok : env.AllOk) (hvalid : env.OptionsValid context.pg) (user : UserMapping) (rtindex : Nat)
    {slot : TupleTableSlot}
    (hslot : slot.ttsTupleDescriptor = (context.root.rtFetch rtindex).tupdesc)
    (hplain : InsertsPlainly (context.root.rtFetch rtindex).tupdesc)
    (hnames : ((liveColumns (context.root.rtFetch rtindex).tupdesc).map
      fun column => remoteColumnName column.1).Nodup)
    {db : RemoteDatabase V} {store : InsertStmt → List (Nat × Option Text) → RemoteTuple V}
    {fetched : TableRef → Text → Text → Text} (hstores : StoresParams db store fetched)
    (hreads : TypesReadBack context.pg (fetched (remoteTable (context.root.rtFetch rtindex)))
      (context.root.rtFetch rtindex).tupdesc slot) (w₀ : World) :
    RowReadBack context env user rtindex slot db store w₀ := by
  obtain ⟨s, hplan⟩ := tiberoPlanForeignModify_run context rtindex
  obtain ⟨fmstate, w, hbegun, hbegin⟩ :=
    insertRun_begin hok hvalid (context.root.rtFetch rtindex) user
      ⟨insertText context (context.root.rtFetch rtindex)
        (liveColumns (context.root.rtFetch rtindex).tupdesc),
      insertTargets (context.root.rtFetch rtindex).tupdesc⟩ w₀
  -- with all types known, no call of the run fails
  have hrow : Proc.RaisesOnly (fun _ => False) (insertRow context.pg env slot fmstate) :=
    Proc.RaisesOnly.bind (tiberoExecForeignInsert_raisesOnly hok hbegun.prepared.targetAttrs hslot
      hplain.known) fun _ => Proc.RaisesOnly.pure _
  have hall : Proc.RaisesOnly (fun _ => False) (insertRows context.pg env fmstate [slot]) :=
    Proc.RaisesOnly.bind (Proc.RaisesOnly.bind hrow fun _ => Proc.RaisesOnly.pure _)
      fun _ => tiberoEndForeignModify_raisesOnly hok
  obtain ⟨u, w', hrun⟩ := hall.returns w
  obtain ⟨params, hdrop, hperm⟩ :=
    hbegun.run_received rfl (fun s hs => List.mem_singleton.mp hs ▸ hslot) hrun
  exact ⟨_, s, hplan, w', params, _, (hbegin [slot]).trans hrun, hdrop,
    readInsert_text context _ _, hstores.readsBack hnames hreads (hperm.mpr hplain)⟩

/-! ## A remote side that keeps the texts -/

/-- A database of texts, which are printed as they are. -/
def RemoteDatabase.texts : RemoteDatabase Text :=
  ⟨fun _ _ => [], fun _ => none, fun _ _ => none, fun _ _ _ => none, fun _ => false, id⟩

/-- The row of an INSERT in it. -/
def storedTexts (stmt : InsertStmt) (params : List (Nat × Option Text)) : RemoteTuple Text where
  columns name :=
    if stmt.columns.contains name then
      (params.lookup (stmt.columns.idxOf name + 1)).join.filter (· ≠ [])
    else none
  rowid := none

theorem lookup_of_mem {params : List (Nat × Option Text)} {number : Nat} {value : Option Text}
    (hnodup : (params.map Prod.fst).Nodup) (h : (number, value) ∈ params) :
    params.lookup number = some value := by
  obtain ⟨before, after, rfl⟩ := List.append_of_mem h
  refine List.lookup_eq_some_iff.mpr ⟨before, after, rfl, fun param hparam => ?_⟩
  rw [List.map_append, List.nodup_append] at hnodup
  have hne := hnodup.2.2 param.1 (List.mem_map_of_mem hparam) number
    (List.mem_map_of_mem (List.mem_cons_self ..))
  exact bne_iff_ne.mpr (Ne.symm hne)

/-- The parameter of the `i`-th column is found, in whatever order they were bound. -/
theorem storedTexts_column {stmt : InsertStmt} {params : List (Nat × Option Text)} {i : Nat}
    {name : Text} {param : Option Text} (hnames : stmt.columns.Nodup)
    (hnodup : (params.map Prod.fst).Nodup) (hname : stmt.columns[i]? = some name)
    (h : (i + 1, param) ∈ params) :
    (storedTexts stmt params).columns name = param.filter (· ≠ []) := by
  obtain ⟨hlt, rfl⟩ := List.getElem?_eq_some_iff.mp hname
  rw [storedTexts]
  dsimp only
  rw [if_pos (List.contains_iff_mem.mpr (List.getElem_mem hlt)), hnames.idxOf_getElem i hlt,
    lookup_of_mem hnodup h]
  rfl

theorem storesParams_texts : StoresParams .texts storedTexts fun _ _ text => text where
  null stmt params i name param hnames hnodup hname hparam hno := by
    rw [storedTexts_column hnames hnodup hname hparam]
    refine Option.filter_eq_none_iff.mpr fun text htext => ?_
    rw [hno text htext]
    simp
  text stmt params i name text hnames hnodup hname hparam htext := by
    rw [storedTexts_column hnames hnodup hname hparam, Option.filter_some,
      if_pos (by simpa using htext)]
    rfl

/-- A table with two numbers, two texts under other remote names, and a dropped column. -/
def orderTable : Relation where
  relname := "orders".toList
  tupdesc :=
    [⟨"id".toList, INT4OID, -1, false, false, []⟩,
      ⟨"title".toList, TEXTOID, -1, false, false, [⟨"column_name", "TITLE".toList⟩]⟩,
      ⟨"note".toList, TEXTOID, -1, false, false, [⟨"column_name", "NOTE".toList⟩]⟩,
      ⟨"amount".toList, INT4OID, -1, false, false, []⟩,
      ⟨"old".toList, invalidOid, -1, true, false, []⟩]
  options := [⟨"table_name", "ORDERS".toList⟩]

/-- A row of it with an empty text and a null. -/
def orderSlot : TupleTableSlot where
  ttsTupleDescriptor := orderTable.tupdesc
  ttsValues :=
    [some (.word 42), some (.cstring "it's".toList), some (.cstring []), none, none]

/-- The number and the text come back; the empty text and the null are both null. -/
theorem orderSlot_readBack :
    RowReadBack { insertContext orderTable with pg := .smallNumbers } .succeeding .sample 1
      orderSlot .texts storedTexts .start := by
  have hreads : TypesReadBack .smallNumbers (fun _ text => text) orderTable.tupdesc orderSlot := by
    intro attnum attr datum hattr hdrop hvalue htext
    rcases attnum with _ | _ | _ | _ | _ | attnum
    · cases hattr
      cases hvalue
      decide
    · cases hattr
      cases hvalue
      decide
    · -- the empty text
      cases hattr
      cases hvalue
      exact absurd rfl htext
    · cases hvalue
    · cases hattr
      cases hdrop
    · cases hattr
  exact insertedRow_readBack { insertContext orderTable with pg := .smallNumbers }
    Environment.succeeding_allOk (fun _ _ _ h => by cases h) .sample 1 rfl
    ⟨by decide, by decide, by decide⟩ (by decide) storesParams_texts hreads .start

end TiberoFdw
