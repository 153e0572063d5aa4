import TiberoFdw.Batches
import TiberoFdw.Lib.Denotation
import TiberoFdw.Statements
import TiberoFdw.Verdict

/-!
# The meaning of the remote conditions

PostgreSQL evaluates a condition on a tuple (`Evaluation`); the remote side reads the text of
the statement and evaluates the trees that it finds on its rows (`RemoteDatabase`). What the
wrapper relies on when it ships a condition is that both sides agree on columns, constants and
operators (`Agrees`). **Then they agree on the whole condition** (`conditionTree_stands`), and
the text selects the rows that PostgreSQL would select (`remote_keeps_eq`).
-/

namespace TiberoFdw

open Terms (Term Interpretation)

/-! ## PostgreSQL's side -/

/-- How PostgreSQL evaluates the expressions of a query on the tuples of a relation. -/
structure Evaluation (relid : Nat) where
  value : Node → HeapTuple → Option Datum
  /-- operator, collation, arguments -/
  operator : Oid → Oid → List (Option Datum) → Option Datum
  var : ∀ v : Var, v.varno = relid → v.varlevelsup = 0 → 0 < v.varattno → ∀ tuple,
    value (.var v) tuple = (tuple[v.varattno.toNat - 1]?).join
  const : ∀ (c : Const) tuple,
    value (.const c) tuple = if c.constisnull then none else some c.constvalue
  opExpr : ∀ opno inputcollid opcollid args tuple,
    value (.opExpr opno inputcollid opcollid args) tuple =
      operator opno inputcollid (args.map (value · tuple))
  /-- nothing matters but the columns that are used -/
  frame : ∀ e tuple tuple', (∀ attnum : Nat, 1 ≤ attnum → UsesColumn relid attnum e →
      (tuple[attnum - 1]?).join = (tuple'[attnum - 1]?).join) →
    value e tuple = value e tuple'

/-- A condition lets a tuple pass when it is true, and neither false nor null. -/
def isTrueDatum : Option Datum → Bool
  | some datum => decide (datum.toInt ≠ 0)
  | none => false

/-- `ExecQual`: all conditions are true. -/
def Evaluation.qual {relid : Nat} (ev : Evaluation relid) (quals : List Node) (tuple : HeapTuple) :
    Bool :=
  quals.all fun e => isTrueDatum (ev.value e tuple)

/-- `ExecProject`: the values of the target list. -/
def Evaluation.project {relid : Nat} (ev : Evaluation relid) (targets : List Node)
    (tuple : HeapTuple) : List (Option Datum) :=
  targets.map (ev.value · tuple)

/-! ## The remote side -/

/-- A row of a remote table: its columns by their names, and its row identifier. -/
structure RemoteTuple (V : Type) where
  columns : Text → Option V
  rowid : Option V

/-- A database with values `V`. -/
structure RemoteDatabase (V : Type) where
  /-- the rows of a table that a statement with or without the snapshot clause sees -/
  rows : TableRef → Bool → List (RemoteTuple V)
  /-- the value of a literal or of a call -/
  literal : Operand → Option V
  unary : Text → Option V → Option V
  binary : Text → Option V → Option V → Option V
  isTrue : Option V → Bool
  /-- a value as it is fetched into a character buffer -/
  print : V → Text

namespace RemoteDatabase

variable {V : Type} (db : RemoteDatabase V)

/-- What the operands and operators of a condition mean on a row. -/
def interpretation (row : RemoteTuple V) : Interpretation Operand (Option V) where
  operand
    | .column name => row.columns name
    | .rowid => row.rowid
    | a => db.literal a
  unary := db.unary
  binary := db.binary

/-- The conditions of a statement let a row pass. -/
def keeps (conditions : List (Term Operand)) (row : RemoteTuple V) : Bool :=
  conditions.all fun t => db.isTrue (t.eval (db.interpretation row))

/-- The cell of a row for an item of a select list. -/
def cell (row : RemoteTuple V) : SelectItem → Option Text
  | .null => none
  | .column name => (row.columns name).map db.print

/-- The rows that a statement selects. -/
def selected (stmt : SelectStmt) : List (RemoteTuple V) :=
  (db.rows stmt.table stmt.asOfTsn).filter (db.keeps stmt.conditions)

/-- The result of a statement. -/
def answer (stmt : SelectStmt) : List Row :=
  (db.selected stmt).map fun row => stmt.items.map (db.cell row)

/-- The result of a text: of the statement that it is read as. -/
def answerText (text : Text) : List Row := ((readSelect text).map db.answer).getD []

end RemoteDatabase

/-! ## Tuples of remote rows -/

/-- What a cell is converted to; null stays null. -/
def cellDatum (pg : Postgres) (attr : FormPgAttribute) (cell : Option Text) : Option Datum :=
  cell.bind fun text =>
    pg.inputFunctionCall (pg.pgType attr.atttypid).typinput text attr.atttypid attr.atttypmod

/-- The tuple with all columns of a remote row. -/
def completeTuple {V : Type} (pg : Postgres) (db : RemoteDatabase V) (tupdesc : TupleDesc)
    (row : RemoteTuple V) : HeapTuple :=
  tupdesc.map fun attr =>
    if attr.attisdropped then none
    else cellDatum pg attr (db.cell row (.column (remoteColumnName attr)))

/-- A cell has one conversion. -/
theorem Converted.eq_cellDatum {pg : Postgres} {attr : FormPgAttribute} {cell : Option Text}
    {value : Option Datum} (h : Converted pg attr cell value) : value = cellDatum pg attr cell := by
  cases h with
  | null => rfl
  | value hconverts => exact hconverts.symm

/-! ## Agreement -/

/-- What is relied on when conditions are shipped. `Stands v d` says that the value `v` of the
remote side stands for the value `d`. -/
structure Agrees {V : Type} {relid : Nat} (pg : Postgres) (ev : Evaluation relid)
    (db : RemoteDatabase V) (tupdesc : TupleDesc) (rows : List (RemoteTuple V))
    (exprs : List Node) (Stands : Option V → Option Datum → Prop) : Prop where
  /-- a cell is converted to what its value stands for -/
  cell : ∀ row ∈ rows, ∀ attr ∈ tupdesc, attr.attisdropped = false →
    ∃ datum, Converted pg attr (db.cell row (.column (remoteColumnName attr))) datum ∧
      Stands (row.columns (remoteColumnName attr)) datum
  rowid : ∀ row ∈ rows, ∀ e ∈ exprs, ∀ v, Reaches e (.var v) →
    v.varattno = selfItemPointerAttributeNumber →
    Stands row.rowid (ev.value (.var v) (completeTuple pg db tupdesc row))
  /-- a constant is written as what stands for it -/
  const : ∀ e ∈ exprs, ∀ c, Reaches e (.const c) → c.constisnull = false →
    Stands (db.literal (constOperand pg c)) (some c.constvalue)
  /-- the operators of one name do the same -/
  unary : ∀ e ∈ exprs, ∀ opno inputcollid opcollid arg,
    Reaches e (.opExpr opno inputcollid opcollid [arg]) → ∀ v d, Stands v d →
      Stands (db.unary (operatorName (pg.pgOperator opno)) v) (ev.operator opno inputcollid [d])
  binary : ∀ e ∈ exprs, ∀ opno inputcollid opcollid lhs rhs,
    Reaches e (.opExpr opno inputcollid opcollid [lhs, rhs]) →
      ∀ v₁ d₁ v₂ d₂, Stands v₁ d₁ → Stands v₂ d₂ →
        Stands (db.binary (operatorName (pg.pgOperator opno)) v₁ v₂)
          (ev.operator opno inputcollid [d₁, d₂])
  truth : ∀ v d, Stands v d → db.isTrue v = isTrueDatum d

theorem Reaches.trans {a b c : Node} (hab : Reaches a b) (hbc : Reaches b c) : Reaches a c := by
  induction hab with
  | here e => exact hbc
  | arg harg _ ih => exact .arg harg (ih hbc)
  | element helement _ ih => exact .element helement (ih hbc)

section

variable {V : Type} {context : DeparseContext} {baserel : RelOptInfo}
  {valueOf : Oid → Datum → Option NumericValue} {ev : Evaluation baserel.relid}
  {db : RemoteDatabase V} {rows : List (RemoteTuple V)} {exprs : List Node}
  {Stands : Option V → Option Datum → Prop}

/-- A column of a remote row stands for the attribute of the complete tuple. -/
theorem Agrees.column {tupdesc : TupleDesc}
    (h : Agrees context.pg ev db tupdesc rows exprs Stands)
    {row : RemoteTuple V} (hrow : row ∈ rows) {i : Nat} {attr : FormPgAttribute}
    (hattr : tupdesc[i]? = some attr) (hdrop : attr.attisdropped = false) :
    Stands (row.columns (remoteColumnName attr))
      ((completeTuple context.pg db tupdesc row)[i]?).join := by
  obtain ⟨datum, hconverted, hstands⟩ := h.cell row hrow attr (List.mem_of_getElem? hattr) hdrop
  rw [completeTuple, List.getElem?_map, hattr, Option.map_some, if_neg (by simp [hdrop]),
    ← hconverted.eq_cellDatum]
  exact hstands

/-- **One condition**: the value of its tree stands for the value that PostgreSQL computes. The
induction is on the condition, and both sides agree on its leaves by assumption. -/
theorem conditionTree_stands (hbase : context.OnBaseRel baserel)
    (hrelids : baserel.relids = [baserel.relid])
    (hlive : ∀ e ∈ exprs, ∀ v, Reaches e (.var v) → 0 < v.varattno → ∀ attr,
      (context.root.rtFetch v.varno).tupdesc[v.varattno.toNat - 1]? = some attr →
        attr.attisdropped = false)
    (h : Agrees context.pg ev db (context.root.rtFetch baserel.relid).tupdesc rows exprs Stands)
    {row : RemoteTuple V} (hrow : row ∈ rows) {e node : Node} (he : e ∈ exprs)
    (hreaches : Reaches e node) (hreadable : IsReadable context valueOf node) :
    Stands ((conditionTree context node).eval (db.interpretation row))
      (ev.value node
        (completeTuple context.pg db (context.root.rtFetch baserel.relid).tupdesc row)) := by
  have hvarno : ∀ v : Var, v.varno ∈ context.scanrel.relids → v.varno = baserel.relid := by
    intro v hv
    rw [hbase.scanrel, hrelids] at hv
    exact List.mem_singleton.mp hv
  have hconst : ∀ c : Const, c.constisnull = false → Reaches e (.const c) →
      Stands ((conditionTree context (.const c)).eval (db.interpretation row))
        (ev.value (.const c)
          (completeTuple context.pg db (context.root.rtFetch baserel.relid).tupdesc row)) := by
    intro c hnull hc
    have hstands := h.const e he c hc hnull
    rw [ev.const, hnull, if_neg (by decide), conditionTree, Term.eval]
    have hliteral : (db.interpretation row).operand (constOperand context.pg c) =
        db.literal (constOperand context.pg c) := by
      rw [constOperand]
      split_ifs <;> rfl
    rw [hliteral]
    exact hstands
  -- the induction is on the tree; every node of it is reached from the condition
  induction hreadable with
  | column own hattno hattr =>
    rename_i v attr
    have hno := hvarno v own.1
    have hdrop := hlive e he v hreaches hattno attr hattr
    have hne : v.varattno ≠ selfItemPointerAttributeNumber := by
      rw [selfItemPointerAttributeNumber]
      omega
    have hoperand : varOperand context v = .column (remoteColumnName attr) := by
      rw [varOperand, if_neg hne, tupleDescAttr, hattr]
    rw [conditionTree, hoperand, Term.eval, ev.var v hno own.2 hattno]
    rw [hno] at hattr
    exact h.column hrow hattr hdrop
  | rowid own hattno =>
    rename_i v
    have hoperand : varOperand context v = .rowid := if_pos hattno
    rw [conditionTree, hoperand, Term.eval]
    exact h.rowid row hrow e he v hreaches hattno
  | number hnull | date hnull | timestamp hnull | string hnull => exact hconst _ hnull hreaches
  | @unary opno inputcollid opcollid arg hop hkind harg ih =>
    have htree : conditionTree context (.opExpr opno inputcollid opcollid [arg]) =
        .unary (operatorName (context.pg.pgOperator opno)) (conditionTree context arg) := by
      rw [conditionTree, conditionTrees, conditionTrees, operatorTree.eq_def, hkind]
    have hchild := ih (hreaches.trans (.arg (List.mem_singleton.mpr rfl) (.here arg)))
    rw [htree, Term.eval, ev.opExpr]
    exact h.unary e he opno inputcollid opcollid arg hreaches _ _ hchild
  | @binary opno inputcollid opcollid lhs rhs hop hkind hlhs hrhs ihl ihr =>
    have htree : conditionTree context (.opExpr opno inputcollid opcollid [lhs, rhs]) =
        .binary (operatorName (context.pg.pgOperator opno)) (conditionTree context lhs)
          (conditionTree context rhs) := by
      rw [conditionTree, conditionTrees, conditionTrees, conditionTrees, operatorTree.eq_def,
        hkind]
    have hl := ihl (hreaches.trans (.arg (List.mem_cons_self ..) (.here lhs)))
    have hr := ihr (hreaches.trans (.arg (List.mem_cons_of_mem _ (List.mem_singleton.mpr rfl))
      (.here rhs)))
    rw [htree, Term.eval, ev.opExpr]
    exact h.binary e he opno inputcollid opcollid lhs rhs hreaches _ _ _ _ hl hr

/-- **All conditions**: the remote side keeps a row exactly when PostgreSQL would keep its
complete tuple. -/
theorem remote_keeps_eq (hbase : context.OnBaseRel baserel)
    (hrelids : baserel.relids = [baserel.relid])
    (hlive : ∀ e ∈ exprs, ∀ v, Reaches e (.var v) → 0 < v.varattno → ∀ attr,
      (context.root.rtFetch v.varno).tupdesc[v.varattno.toNat - 1]? = some attr →
        attr.attisdropped = false)
    (h : Agrees context.pg ev db (context.root.rtFetch baserel.relid).tupdesc rows exprs Stands)
    (hreadable : ∀ e ∈ exprs, IsReadable context valueOf e) {row : RemoteTuple V}
    (hrow : row ∈ rows) :
    db.keeps (exprs.map (conditionTree context)) row =
      ev.qual exprs
        (completeTuple context.pg db (context.root.rtFetch baserel.relid).tupdesc row) := by
  rw [RemoteDatabase.keeps, Evaluation.qual, List.all_map, Bool.eq_iff_iff, List.all_eq_true,
    List.all_eq_true]
  refine forall₂_congr fun e he => ?_
  rw [Function.comp_apply, h.truth _ _ (conditionTree_stands hbase hrelids hlive h hrow he
    (.here e) (hreadable e he))]

end

end TiberoFdw
