import TiberoFdw.Render
import TiberoFdw.Transaction

/-!
# INSERT

The callbacks of a modification: `tiberoPlanForeignModify` builds the text and
the list of target attributes, `tiberoBeginForeignModify` prepares it,
`tiberoExecForeignInsert` binds the parameters of one row and executes, and
`tiberoEndForeignModify` drops the statement.

The text has the columns that are not dropped, and as many parameter markers
(`tiberoPlanForeignModify_run`, `tokens_insertText`). The columns are numbered
from one without a gap only when the dropped columns come last
(`liveColumns_eq_range_iff`).
-/

namespace TiberoFdw

open SqlText (Token Lexes)

/-! ## The callbacks -/

/-- `CmdType`. -/
inductive CmdType : Type where
  | select
  | update
  | insert
  | delete
  | other
  deriving DecidableEq

/-- The private list of a modification. -/
structure FdwModifyPrivate where
  query : Text
  targetAttrs : List Nat

/-- The numbers of the attributes that are not dropped, from number `attnum` on. -/
def targetAttrsFrom : TupleDesc → Nat → List Nat
  | [], _ => []
  | attr :: rest, attnum =>
    if attr.attisdropped then targetAttrsFrom rest (attnum + 1)
    else attnum :: targetAttrsFrom rest (attnum + 1)

/-- The target attributes of an INSERT. -/
def insertTargets (tupdesc : TupleDesc) : List Nat := targetAttrsFrom tupdesc 1

/-- `tiberoPlanForeignModify`; `none` for anything but an INSERT. -/
def tiberoPlanForeignModify (context : DeparseContext) (operation : CmdType)
    (resultRelation : Nat) : Deparse (Option FdwModifyPrivate) :=
  if operation ≠ .insert then pure none
  else do
    let rel := context.root.rtFetch resultRelation
    let targetAttrs := insertTargets rel.tupdesc
    deparseInsertSql context resultRelation rel (targetAttrs.map Int.ofNat)
    let sql ← Proc.read
    pure (some ⟨sql.buf, targetAttrs⟩)

/-- `TbFdwExecState`; a function lookup is the OID of the function. -/
structure TbFdwExecState where
  query : Text
  targetAttrs : List Nat
  pNums : Nat
  pFlinfo : List Oid
  tbStmt : TbStatement

/-- The output functions of the target attributes. -/
def insertOutputFunctions (pg : Postgres) (tupdesc : TupleDesc) (targetAttrs : List Nat) :
    List Oid :=
  targetAttrs.filterMap fun attnum =>
    (tupleDescAttr tupdesc (attnum - 1)).map fun attr => (pg.pgType attr.atttypid).typoutput

/-- `tiberoBeginForeignModify`; `none` under EXPLAIN. -/
def tiberoBeginForeignModify (pg : Postgres) (env : Environment) (rel : Relation)
    (user : UserMapping) (explainOnly : Bool) (fdwPrivate : FdwModifyPrivate) :
    Fdw (Option TbFdwExecState) :=
  if explainOnly then pure none
  else do
    setSleepOnSigOn
    let _ ← getForeignServer env user.serverid
    let pFlinfo := insertOutputFunctions pg rel.tupdesc fdwPrivate.targetAttrs
    let tbStmt ← getTbStatement pg env user TbStatement.zeroed false
    let tbStmt := { tbStmt with queryExecuted := false }
    tbSqlPrepare env tbStmt fdwPrivate.query
    setSleepOnSigOff
    pure (some
      { query := fdwPrivate.query
        targetAttrs := fdwPrivate.targetAttrs
        pNums := pFlinfo.length
        pFlinfo := pFlinfo
        tbStmt := tbStmt })

/-- A slot with a row. -/
structure TupleTableSlot where
  ttsTupleDescriptor : TupleDesc
  ttsValues : List (Option Datum)

/-- `slot_getattr`; `none` for NULL. -/
def slotGetattr (slot : TupleTableSlot) (attnum : Nat) : Option Datum :=
  (slot.ttsValues[attnum - 1]?).join

/-- The arrays that `tiberoExecForeignInsert` allocates, each with `n_params` entries. -/
inductive InsertArray : Type where
  | isnull
  | pValues
  | inds
  deriving DecidableEq

/-- The loop of `tiberoExecForeignInsert`; returns the accesses to the arrays. A
generated column is skipped, and moves none of the two indices. -/
def bindInsertParams (pg : Postgres) (env : Environment) (fmstate : TbFdwExecState)
    (slot : TupleTableSlot) : List Nat → Nat → Nat → Fdw (List (InsertArray × Nat))
  | [], _, _ => pure []
  | target :: rest, pindex, findex =>
    let attnum := target - 1
    match tupleDescAttr slot.ttsTupleDescriptor attnum with
    | none => bindInsertParams pg env fmstate slot rest pindex findex
    | some attr =>
      if attr.attgenerated then bindInsertParams pg env fmstate slot rest pindex findex
      else do
        let value := (slotGetattr slot (attnum + 1)).map
          (pg.outputFunctionCall ((fmstate.pFlinfo[findex]?).getD 0))
        tbSqlBindParameter env fmstate.tbStmt (attnum + 1) attr.atttypid (.text value)
        let accesses ← bindInsertParams pg env fmstate slot rest (pindex + 1) (findex + 1)
        pure ((.isnull, attnum) :: (.pValues, pindex) :: (.inds, pindex) :: accesses)

/-- `tiberoExecForeignInsert`. -/
def tiberoExecForeignInsert (pg : Postgres) (env : Environment) (fmstate : TbFdwExecState)
    (slot : TupleTableSlot) : Fdw (TbFdwExecState × List (InsertArray × Nat)) := do
  setSleepOnSigOn
  let accesses ← bindInsertParams pg env fmstate slot fmstate.targetAttrs 0 0
  let tbStmt ← executeUnlessExecuted env fmstate.tbStmt
  setSleepOnSigOff
  pure ({ fmstate with tbStmt }, accesses)

/-- `tiberoEndForeignModify`. -/
def tiberoEndForeignModify (env : Environment) (fmstate : Option TbFdwExecState) : Fdw Unit :=
  match fmstate with
  | none => pure ()
  | some fmstate => do
    setSleepOnSigOn
    tbSqlFreeStmt env fmstate.tbStmt .drop
    setSleepOnSigOff

/-- One row of a modification. -/
def insertRow (pg : Postgres) (env : Environment) (slot : TupleTableSlot)
    (fmstate : TbFdwExecState) : Fdw TbFdwExecState := do
  let (fmstate, _) ← tiberoExecForeignInsert pg env fmstate slot
  pure fmstate

/-- The rows of a modification, one call after the other, and its end. -/
def insertRows (pg : Postgres) (env : Environment) (fmstate : TbFdwExecState)
    (rows : List TupleTableSlot) : Fdw Unit := do
  let fmstate ← Proc.fold (insertRow pg env) rows fmstate
  tiberoEndForeignModify env (some fmstate)

/-! ## The columns -/

/-- The columns of an INSERT, with their attribute numbers. -/
def liveColumnsFrom (tupdesc : TupleDesc) (attnum : Nat) : List (FormPgAttribute × Nat) :=
  (tupdesc.zipIdx attnum).filter fun column => !column.1.attisdropped

/-- The columns that are not dropped, with their attribute numbers. -/
def liveColumns (tupdesc : TupleDesc) : List (FormPgAttribute × Nat) := liveColumnsFrom tupdesc 1

theorem liveColumnsFrom_cons (attr : FormPgAttribute) (rest : TupleDesc) (attnum : Nat) :
    liveColumnsFrom (attr :: rest) attnum =
      if attr.attisdropped then liveColumnsFrom rest (attnum + 1)
      else (attr, attnum) :: liveColumnsFrom rest (attnum + 1) := by
  rw [liveColumnsFrom, List.zipIdx_cons, List.filter_cons]
  cases attr.attisdropped <;> rfl

theorem mem_liveColumns {tupdesc : TupleDesc} {attr : FormPgAttribute} {a : Nat}
    (h : (attr, a) ∈ liveColumns tupdesc) :
    1 ≤ a ∧ tupdesc[a - 1]? = some attr ∧ attr.attisdropped = false := by
  obtain ⟨hmem, hlive⟩ := List.mem_filter.mp h
  obtain ⟨hle, hattr⟩ := List.mk_mem_zipIdx_iff_le_and_getElem?_sub.mp hmem
  exact ⟨hle, hattr, by simpa using hlive⟩

/-- The target attributes are the columns that are not dropped. -/
theorem targetAttrsFrom_eq (tupdesc : TupleDesc) (attnum : Nat) :
    targetAttrsFrom tupdesc attnum = (liveColumnsFrom tupdesc attnum).map Prod.snd := by
  induction tupdesc generalizing attnum with
  | nil => rfl
  | cons attr rest ih =>
    rw [targetAttrsFrom, ih, liveColumnsFrom_cons]
    cases attr.attisdropped <;> rfl

theorem insertTargets_eq (tupdesc : TupleDesc) :
    insertTargets tupdesc = (liveColumns tupdesc).map Prod.snd :=
  targetAttrsFrom_eq tupdesc 1

theorem liveColumnsFrom_pairwise (tupdesc : TupleDesc) (attnum : Nat) :
    (liveColumnsFrom tupdesc attnum).Pairwise fun c c' => c.2 < c'.2 := by
  apply List.Pairwise.filter _
  have h : ((tupdesc.zipIdx attnum).map Prod.snd).Pairwise (· < ·) := by
    rw [List.zipIdx_map_snd]
    exact List.pairwise_lt_range'
  exact List.pairwise_map.mp h

/-- No column follows a dropped one. -/
def DroppedLast (tupdesc : TupleDesc) : Prop :=
  tupdesc.Pairwise fun attr next => attr.attisdropped = true → next.attisdropped = true

instance (tupdesc : TupleDesc) : Decidable (DroppedLast tupdesc) :=
  inferInstanceAs (Decidable (tupdesc.Pairwise _))

theorem liveColumnsFrom_eq_nil {tupdesc : TupleDesc} {attnum : Nat} :
    liveColumnsFrom tupdesc attnum = [] ↔ ∀ attr ∈ tupdesc, attr.attisdropped = true := by
  induction tupdesc generalizing attnum with
  | nil => simp [liveColumnsFrom]
  | cons attr rest ih =>
    rw [liveColumnsFrom_cons, List.forall_mem_cons]
    rcases hdropped : attr.attisdropped with _ | _
    · simp
    · rw [if_pos rfl]
      exact ⟨fun h => ⟨rfl, ih.mp h⟩, fun h => ih.mpr h.2⟩

/-- **Attribute numbers and positions**: the columns are numbered without a gap
exactly when the dropped ones come last. -/
theorem liveColumnsFrom_eq_range_iff {tupdesc : TupleDesc} {attnum : Nat} :
    (liveColumnsFrom tupdesc attnum).map Prod.snd =
        List.range' attnum (liveColumnsFrom tupdesc attnum).length ↔
      DroppedLast tupdesc := by
  induction tupdesc generalizing attnum with
  | nil => simp [liveColumnsFrom, DroppedLast]
  | cons attr rest ih =>
    rw [liveColumnsFrom_cons, DroppedLast, List.pairwise_cons]
    rcases hdropped : attr.attisdropped with _ | _
    · simp only [Bool.false_eq_true, if_false, List.map_cons, List.length_cons, List.range'_succ,
        List.cons.injEq, false_implies, implies_true, true_and]
      exact ih
    · -- a column after the dropped one has a number that is too large
      simp only [if_true, forall_const]
      constructor
      · intro h
        have hnil : liveColumnsFrom rest (attnum + 1) = [] := by
          rcases hlive : liveColumnsFrom rest (attnum + 1) with _ | ⟨⟨attr', a⟩, columns⟩
          · rfl
          · rw [hlive, List.map_cons, List.length_cons, List.range'_succ] at h
            have hmem : (attr', a) ∈ rest.zipIdx (attnum + 1) :=
              List.mem_of_mem_filter (hlive ▸ List.mem_cons_self ..)
            have hle := (List.mk_mem_zipIdx_iff_le_and_getElem?_sub.mp hmem).1
            have heq : a = attnum := (List.cons.inj h).1
            omega
        refine ⟨liveColumnsFrom_eq_nil.mp hnil,
          ih.mp (?_ : (liveColumnsFrom rest (attnum + 1)).map Prod.snd = _)⟩
        rw [hnil]
        rfl
      · rintro ⟨hall, -⟩
        rw [liveColumnsFrom_eq_nil.mpr hall]
        rfl

theorem liveColumns_eq_range_iff {tupdesc : TupleDesc} :
    (liveColumns tupdesc).map Prod.snd = List.range' 1 (liveColumns tupdesc).length ↔
      DroppedLast tupdesc :=
  liveColumnsFrom_eq_range_iff

/-! ## The text -/

/-- The text of an INSERT statement into these columns. -/
def insertText (context : DeparseContext) (rel : Relation)
    (columns : List (FormPgAttribute × Nat)) : Text :=
  "INSERT INTO ".toList ++ (relationText context rel false ++
    (if columns.isEmpty then []
    else '(' :: (List.intercalate ", ".toList
        (columns.map fun column => context.pg.quoteIdentifier (remoteColumnName column.1)) ++
      (") VALUES (".toList ++
        (List.intercalate ", ".toList (columns.map fun _ => "?".toList) ++ [')'])))))

/-- The separator of a loop. -/
theorem renders_separator (sep : Text) (first : Bool) :
    Renders (Proc.when (!first) (appendStringInfoString sep))
      (some (if first then [] else sep)) := by
  cases first
  · exact renders_append sep
  · exact renders_pure

theorem renders_insertColumns (pg : Postgres) (rtindex : Nat) (rel : Relation)
    {columns : List (FormPgAttribute × Nat)}
    (hcolumns : ∀ c ∈ columns, 1 ≤ c.2 ∧ rel.tupdesc[c.2 - 1]? = some c.1) (first : Bool) :
    Renders (deparseInsertColumns pg rtindex rel ((columns.map Prod.snd).map Int.ofNat) first)
      (some (separated ", ".toList first
        (columns.map fun column => pg.quoteIdentifier (remoteColumnName column.1)))) := by
  induction columns generalizing first with
  | nil =>
    simp only [List.map_nil, separated_nil]
    exact renders_pure
  | cons column rest ih =>
    obtain ⟨hpos, hattr⟩ := hcolumns column (List.mem_cons_self ..)
    have hcol := renders_columnRef pg rtindex column.2 rel false
    rw [columnText_of_attr pg rtindex false hpos hattr] at hcol
    have hrest := ih (fun c hc => hcolumns c (List.mem_cons_of_mem _ hc)) false
    simp only [List.map_cons, separated_cons]
    exact (renders_separator ", ".toList first).seq (hcol.seq hrest)

theorem renders_insertMarkers (columns : List (FormPgAttribute × Nat)) (first : Bool) :
    Renders (deparseInsertMarkers ((columns.map Prod.snd).map Int.ofNat) first)
      (some (separated ", ".toList first (columns.map fun _ => "?".toList))) := by
  induction columns generalizing first with
  | nil =>
    simp only [List.map_nil, separated_nil]
    exact renders_pure
  | cons column rest ih =>
    simp only [List.map_cons, separated_cons]
    exact (renders_separator ", ".toList first).seq ((renders_append "?".toList).seq (ih false))

/-- What `deparse_insert_sql` writes. -/
theorem renders_insert (context : DeparseContext) (rtindex : Nat) (rel : Relation)
    {columns : List (FormPgAttribute × Nat)}
    (hcolumns : ∀ c ∈ columns, 1 ≤ c.2 ∧ rel.tupdesc[c.2 - 1]? = some c.1) :
    Renders (deparseInsertSql context rtindex rel ((columns.map Prod.snd).map Int.ofNat))
      (some (insertText context rel columns)) := by
  have hnames := renders_insertColumns context.pg rtindex rel hcolumns true
  have hmarkers := renders_insertMarkers columns true
  have hlists := (renders_append ['(']).seq (hnames.seq ((renders_append ") VALUES (".toList).seq
    (hmarkers.seq (renders_append [')']))))
  have hbody : Renders
      (Proc.when (!((columns.map Prod.snd).map Int.ofNat).isEmpty) do
        appendStringInfoString ['(']
        deparseInsertColumns context.pg rtindex rel ((columns.map Prod.snd).map Int.ofNat) true
        appendStringInfoString ") VALUES (".toList
        deparseInsertMarkers ((columns.map Prod.snd).map Int.ofNat) true
        appendStringInfoString [')'])
      (some (if columns.isEmpty then []
        else '(' :: (List.intercalate ", ".toList
            (columns.map fun column => context.pg.quoteIdentifier (remoteColumnName column.1)) ++
          (") VALUES (".toList ++
            (List.intercalate ", ".toList (columns.map fun _ => "?".toList) ++ [')']))))) := by
    rcases columns with _ | ⟨column, rest⟩
    · exact renders_pure
    · exact hlists
  exact (renders_append "INSERT INTO ".toList).seq ((renders_relation context rel false).seq hbody)

/-- **The plan of an INSERT.** It has the text of the columns that are not dropped and their
numbers, and no relation makes the planner fail. -/
theorem tiberoPlanForeignModify_run (context : DeparseContext) (rtindex : Nat) :
    ∃ s, tiberoPlanForeignModify context .insert rtindex RemoteSqlInfo.start =
      .ok (some ⟨insertText context (context.root.rtFetch rtindex)
          (liveColumns (context.root.rtFetch rtindex).tupdesc),
        insertTargets (context.root.rtFetch rtindex).tupdesc⟩) s := by
  have hrun := renders_insert context rtindex (context.root.rtFetch rtindex)
    (fun c (hc : c ∈ liveColumns (context.root.rtFetch rtindex).tupdesc) =>
      ⟨(mem_liveColumns hc).1, (mem_liveColumns hc).2.1⟩)
    RemoteSqlInfo.start (Int.le_refl 0)
  rw [← insertTargets_eq] at hrun
  rw [tiberoPlanForeignModify, if_neg (by decide), Proc.bind_of_ok hrun]
  exact ⟨_, rfl⟩

/-! ## The tokens -/

/-- The items, with commas between them. -/
def commaList (items : List Token) : List Token :=
  List.intercalate [.sym ','] (items.map fun item => [item])

/-- The tokens of an INSERT statement. -/
def insertTokens (relation columns : List Token) : List Token :=
  .word "INSERT".toList :: .word "INTO".toList :: (relation ++
    (if columns.isEmpty then []
    else .sym '(' :: (commaList columns ++ .sym ')' :: .word "VALUES".toList :: .sym '(' ::
      (commaList (columns.map fun _ => .sym '?') ++ [.sym ')']))))

/-- The tokens of the name of a relation. -/
def relationTokens (pg : Postgres) (rel : Relation) : List Token :=
  let relName := pg.identToken ((lastOption "table_name" rel.options).getD rel.relname)
  match lastOption "owner_name" rel.options with
  | none => [relName]
  | some ownerName => [pg.identToken ownerName, .sym '.', relName]

/-- The tokens of the column list. -/
def columnTokens (pg : Postgres) (columns : List (FormPgAttribute × Nat)) : List Token :=
  columns.map fun column => pg.identToken (remoteColumnName column.1)

theorem lexes_relation (context : DeparseContext) (rel : Relation) :
    Lexes (relationText context rel false) (relationTokens context.pg rel) := by
  rw [relationText, relationTokens]
  rcases lastOption "owner_name" rel.options with _ | ownerName
  · simpa using context.pg.lexes_quoteIdentifier _
  · simpa using Lexes.sym (c := '.') (by decide) (context.pg.lexes_quoteIdentifier ownerName)
      (context.pg.lexes_quoteIdentifier _)

/-- A list of texts of one token each. -/
theorem lexes_items {α : Type} (items : List α) {text : α → Text} {token : α → Token}
    (h : ∀ item, Lexes (text item) [token item]) :
    Lexes (List.intercalate ", ".toList (items.map text)) (commaList (items.map token)) := by
  rw [commaList, List.map_map]
  apply lexes_commaList
  induction items with
  | nil => exact .nil
  | cons item rest ih => exact .cons (h item) ih

theorem lexes_marker : Lexes "?".toList [.sym '?'] := Lexes.sym_cons (by decide) Lexes.nil

/-- **The text is read as an INSERT** with the columns as its column list and one
parameter marker for each of them. -/
theorem tokens_insertText (context : DeparseContext) (rel : Relation)
    (columns : List (FormPgAttribute × Nat)) :
    SqlText.tokens (insertText context rel columns) =
      some (insertTokens (relationTokens context.pg rel) (columnTokens context.pg columns)) := by
  have hinsert : Lexes "INSERT".toList [.word "INSERT".toList] :=
    Lexes.word (by decide) (by decide)
  have hinto : Lexes "INTO".toList [.word "INTO".toList] := Lexes.word (by decide) (by decide)
  have hvalues : Lexes "VALUES".toList [.word "VALUES".toList] :=
    Lexes.word (by decide) (by decide)
  have hnames := lexes_items columns
    fun column => context.pg.lexes_quoteIdentifier (remoteColumnName column.1)
  have hmarkers := lexes_items columns fun _ => lexes_marker
  have hlists := Lexes.sym (c := ')') (by decide) hnames (Lexes.space_cons (hvalues.space
    (Lexes.sym_cons (c := '(') (by decide) (Lexes.sym_concat (c := ')') (by decide) hmarkers))))
  have hbody : Lexes
      (relationText context rel false ++ (if columns.isEmpty then []
        else '(' :: (List.intercalate ", ".toList
            (columns.map fun column => context.pg.quoteIdentifier (remoteColumnName column.1)) ++
          (") VALUES (".toList ++
            (List.intercalate ", ".toList (columns.map fun _ => "?".toList) ++ [')'])))))
      (relationTokens context.pg rel ++ (if (columnTokens context.pg columns).isEmpty then []
        else .sym '(' :: (commaList (columnTokens context.pg columns) ++
          .sym ')' :: .word "VALUES".toList :: .sym '(' ::
          (commaList ((columnTokens context.pg columns).map fun _ => .sym '?') ++
            [.sym ')'])))) := by
    have hrel := lexes_relation context rel
    rcases columns with _ | ⟨column, rest⟩
    · simpa [columnTokens] using hrel
    · rw [columnTokens, List.map_map]
      exact Lexes.sym (c := '(') (by decide) hrel hlists
  exact (hinsert.space (hinto.space hbody)).tokens

theorem count_commaList {t : Token} (ht : t ≠ .sym ',') (items : List Token) :
    (commaList items).count t = items.count t := by
  have hsep : [Token.sym ','].count t = 0 := by simp [ht.symm]
  induction items with
  | nil => rfl
  | cons item rest ih =>
    cases rest with
    | nil => simp [commaList]
    | cons next rest =>
      rw [commaList, List.map_cons, List.map_cons, List.intercalate_cons_cons, List.count_append,
        List.count_append, hsep]
      rw [commaList, List.map_cons] at ih
      rw [ih, Nat.add_zero, ← List.count_append, List.singleton_append]

theorem Postgres.identToken_ne_sym (pg : Postgres) (ident : Text) (c : Char) :
    pg.identToken ident ≠ .sym c := by
  rw [identToken]
  split_ifs <;> exact fun h => by cases h

/-- As many parameter markers as columns. -/
theorem count_markers (pg : Postgres) (rel : Relation) (columns : List (FormPgAttribute × Nat)) :
    (insertTokens (relationTokens pg rel) (columnTokens pg columns)).count (.sym '?') =
      columns.length := by
  have hrel : (relationTokens pg rel).count (.sym '?') = 0 := by
    rw [relationTokens]
    rcases lastOption "owner_name" rel.options with _ | ownerName <;>
      simp [pg.identToken_ne_sym]
  have hnames : (columnTokens pg columns).count (.sym '?') = 0 := by
    rw [List.count_eq_zero, columnTokens]
    intro hmem
    obtain ⟨column, -, heq⟩ := List.mem_map.mp hmem
    exact pg.identToken_ne_sym _ _ heq
  rcases columns with _ | ⟨column, rest⟩
  · simpa [insertTokens, columnTokens] using hrel
  · have hmarkers : ((columnTokens pg (column :: rest)).map fun _ => Token.sym '?').count
        (.sym '?') = rest.length + 1 := by
      rw [List.map_const', List.count_replicate_self, columnTokens, List.length_map,
        List.length_cons]
    have hempty : (columnTokens pg (column :: rest)).isEmpty = false := rfl
    simp only [insertTokens, hempty, Bool.false_eq_true, if_false, List.count_cons,
      List.count_append, count_commaList (t := .sym '?') (by decide), hrel, hnames, hmarkers]
    simp

end TiberoFdw
