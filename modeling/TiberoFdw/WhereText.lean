import Mathlib.Data.List.Forall2
import TiberoFdw.Operands
import TiberoFdw.Operators

/-!
# Reading the conditions back

The tree of a condition has the remote names of columns, the names of operators as they are
written, and the literals of constants. What `append_conditions` writes for a list of
conditions is read as the trees of the conditions, in order, and has no comments
(`conditions_uniquelyReadable`).
-/

namespace TiberoFdw

open SqlText (Runs operatorRuns isOperatorChar)
open Terms (Term IsInfixName IsPrefixName)

/-! ## Trees -/

/-- What a column is read as. -/
def varOperand (context : DeparseContext) (v : Var) : Operand :=
  if v.varattno = selfItemPointerAttributeNumber then .rowid
  else
    match tupleDescAttr (context.root.rtFetch v.varno).tupdesc (v.varattno.toNat - 1) with
    | some attr => .column (remoteColumnName attr)
    | none => .column []

/-- What a constant is read as. -/
def constOperand (pg : Postgres) (c : Const) : Operand :=
  let output := pg.outputFunctionCall (pg.pgType c.consttype).typoutput c.constvalue
  if c.consttype ∈ numericTypes then .number output
  else if c.consttype = DATEOID then .call (dateCall pg c.constvalue.toInt)
  else if c.consttype = TIMESTAMPOID then .call (tsCall pg c.constvalue.toInt)
  else if c.consttype = TIMESTAMPTZOID then .call (tsTzCall pg c.constvalue.toInt)
  else .string output

/-- The tree of an operator, from those of its arguments. -/
def operatorTree (op : FormPgOperator) (args : List (Term Operand)) : Term Operand :=
  match op.oprkind, args with
  | .left, [rhs] => .unary (operatorName op) rhs
  | .both, [lhs, rhs] => .binary (operatorName op) lhs rhs
  | _, _ => .operand (.column [])

mutual

/-- The tree of a condition. -/
def conditionTree (context : DeparseContext) : Node → Term Operand
  | .var v => .operand (varOperand context v)
  | .const c => .operand (constOperand context.pg c)
  | .opExpr opno _ _ args => operatorTree (context.pg.pgOperator opno) (conditionTrees context args)
  | _ => .operand (.column [])

/-- What the arguments are read as. -/
def conditionTrees (context : DeparseContext) : List Node → List (Term Operand)
  | [] => []
  | e :: rest => conditionTree context e :: conditionTrees context rest

end

/-- Read the text of conditions. -/
def readConditions (text : Text) : Option (List (Term Operand)) :=
  Terms.read Operand.read isOperatorChar text

/-- The conditions that are built from own columns, finite and non-empty constants, and operators
with one or two arguments. -/
inductive IsReadable (context : DeparseContext) (valueOf : Oid → Datum → Option NumericValue) :
    Node → Prop where
  | column {v : Var} {attr : FormPgAttribute}
    (own : v.varno ∈ context.scanrel.relids ∧ v.varlevelsup = 0) (hattno : 0 < v.varattno)
    (hattr : (context.root.rtFetch v.varno).tupdesc[v.varattno.toNat - 1]? = some attr) :
    IsReadable context valueOf (.var v)
  | rowid {v : Var} (own : v.varno ∈ context.scanrel.relids ∧ v.varlevelsup = 0)
    (hattno : v.varattno = selfItemPointerAttributeNumber) : IsReadable context valueOf (.var v)
  | number {c : Const} {q : ℚ} (hnull : c.constisnull = false) (htype : c.consttype ∈ numericTypes)
    (hfinite : valueOf c.consttype c.constvalue = some (.finite q)) :
    IsReadable context valueOf (.const c)
  | date {c : Const} (hnull : c.constisnull = false) (htype : c.consttype = DATEOID)
    (hfinite : dateNotFinite c.constvalue.toInt = false) : IsReadable context valueOf (.const c)
  | timestamp {c : Const} (hnull : c.constisnull = false)
    (htype : c.consttype = TIMESTAMPOID ∨ c.consttype = TIMESTAMPTZOID)
    (hfinite : timestampNotFinite c.constvalue.toInt = false) :
    IsReadable context valueOf (.const c)
  | string {c : Const} (hnull : c.constisnull = false) (htype : c.consttype ∈ stringTypes)
    (hne : context.pg.outputFunctionCall (context.pg.pgType c.consttype).typoutput c.constvalue ≠
      []) : IsReadable context valueOf (.const c)
  | unary {opno inputcollid opcollid : Oid} {arg : Node}
    (hop : (context.pg.pgOperator opno).oprnamespace = pgCatalogNamespace)
    (hkind : (context.pg.pgOperator opno).oprkind = .left) (harg : IsReadable context valueOf arg) :
    IsReadable context valueOf (.opExpr opno inputcollid opcollid [arg])
  | binary {opno inputcollid opcollid : Oid} {lhs rhs : Node}
    (hop : (context.pg.pgOperator opno).oprnamespace = pgCatalogNamespace)
    (hkind : (context.pg.pgOperator opno).oprkind = .both) (hlhs : IsReadable context valueOf lhs)
    (hrhs : IsReadable context valueOf rhs) :
    IsReadable context valueOf (.opExpr opno inputcollid opcollid [lhs, rhs])

/-- What is documented of the operators of the catalog. -/
structure Postgres.NamesOperators (pg : Postgres) : Prop where
  name : ∀ oid, (pg.pgOperator oid).oprnamespace = pgCatalogNamespace →
    (pg.pgOperator oid).oprname ≠ [] ∧ (pg.pgOperator oid).oprname.all isOperatorChar = true
  /-- a name does not open a comment -/
  noComment : ∀ oid, (pg.pgOperator oid).oprnamespace = pgCatalogNamespace →
    ¬ "--".toList <:+: (pg.pgOperator oid).oprname
  like : ∀ oid ∈ [OID_NAME_LIKE_OP, OID_TEXT_LIKE_OP, OID_BPCHAR_LIKE_OP],
    (pg.pgOperator oid).oprkind = .both

/-- A text without comments: outside quotes, no run of operator characters opens one. -/
def NoComment (text : Text) : Prop := ∃ rs, Runs text rs ∧ ∀ r ∈ rs, ¬ "--".toList <:+: r

/-- What is said of a list of conditions. -/
structure UniquelyReadable (context : DeparseContext) (exprs : List Node) (text : Text) : Prop where
  /-- no assertion fails, and at the end all parentheses are closed -/
  written : ∀ s, s.pdepth = 0 →
    appendConditions context exprs s = .ok () { s with buf := s.buf ++ text }
  sane : ∀ s, s.pdepth = 0 → (appendConditions context exprs >>= fun _ => remoteSqlCheckSanity) s =
    .ok () { s with buf := s.buf ++ text }
  readBack : readConditions text = some (exprs.map (conditionTree context))
  noComment : ∀ r ∈ operatorRuns text, ¬ "--".toList <:+: r

/-! ## Comments -/

theorem noComment_of_runs {text : Text} (h : Runs text []) : NoComment text :=
  ⟨[], h, nofun⟩

theorem isDelimiter_of_isDigit {c : Char} (hc : c.isDigit = true) : SqlText.IsDelimiter c :=
  isDelimiter_of_isIdentChar (by rw [isIdentChar, hc, Bool.or_true, Bool.true_or])

/-- The sign of a number, or of its power of ten. -/
def IsSign (r : Text) : Prop := r = "-".toList ∨ r = "+".toList

theorem IsSign.noComment {r : Text} (h : IsSign r) : ¬ "--".toList <:+: r := by
  rcases h with rfl | rfl <;> decide

/-- A power of ten has one sign. -/
theorem runs_exponentText {exponent : Option (Bool × List Char)}
    (h : ∀ e ∈ exponent, Numeral.IsDigits e.2) :
    ∃ rs, Runs (Numeral.exponentText exponent) rs ∧ ∀ r ∈ rs, IsSign r := by
  cases exponent with
  | none => exact ⟨[], .nil, nofun⟩
  | some e =>
    obtain ⟨negative, digits⟩ := e
    obtain ⟨hne, hdigits⟩ := h _ rfl
    dsimp only at hne hdigits
    have hall : ∀ c ∈ digits, SqlText.IsDelimiter c :=
      fun c hc => isDelimiter_of_isDigit (List.all_eq_true.mp hdigits c hc)
    obtain ⟨d, digits, rfl⟩ := List.exists_cons_of_ne_nil hne
    have hsign : IsSign [if negative then '-' else '+'] := by
      cases negative
      · exact .inr rfl
      · exact .inl rfl
    have hop : Runs [if negative then '-' else '+'] [[if negative then '-' else '+']] := by
      apply Runs.operator (List.cons_ne_nil _ _)
      cases negative <;> decide
    refine ⟨_, .delimit_cons (by decide) (.delimit (hall d (List.mem_cons_self ..)) hop
      (.delimiters fun c hc => hall c (List.mem_cons_of_mem _ hc))), ?_⟩
    intro r hr
    obtain rfl := List.mem_singleton.mp hr
    exact hsign

/-- The signs of a numeral stand alone. -/
theorem noComment_numeral {n : Numeral} (hn : n.WellFormed) : NoComment n.text := by
  obtain ⟨negative, whole, fraction, exponent⟩ := n
  obtain ⟨⟨hne, hwhole⟩, hfraction, hexponent⟩ := hn
  dsimp only at hne hwhole hfraction hexponent
  have hall : ∀ c ∈ whole, SqlText.IsDelimiter c :=
    fun c hc => isDelimiter_of_isDigit (List.all_eq_true.mp hwhole c hc)
  -- a digit stands between the sign and that of the power of ten
  obtain ⟨d, whole, rfl⟩ := List.exists_cons_of_ne_nil hne
  obtain ⟨rsExponent, hexp, hexpSigns⟩ := runs_exponentText hexponent
  have hfrac :
      Runs (Numeral.fractionText fraction ++ Numeral.exponentText exponent) rsExponent := by
    refine .after_delimiters ?_ hexp
    cases fraction with
    | none => exact nofun
    | some digits =>
      intro c hc
      rcases List.mem_cons.mp hc with rfl | hc
      · decide
      · exact isDelimiter_of_isDigit (List.all_eq_true.mp (hfraction digits rfl).2 c hc)
  have hrest := Runs.after_delimiters (fun c hc => hall c (List.mem_cons_of_mem _ hc)) hfrac
  obtain ⟨rsSign, hsign, hsignSigns⟩ :
      ∃ rs, Runs (Numeral.signText negative) rs ∧ ∀ r ∈ rs, IsSign r := by
    cases negative
    · exact ⟨[], .nil, nofun⟩
    · refine ⟨[['-']], .operator (List.cons_ne_nil _ _) (by decide), ?_⟩
      intro r hr
      exact .inl (List.mem_singleton.mp hr)
  refine ⟨_, .delimit (hall d (List.mem_cons_self ..)) hsign hrest, ?_⟩
  intro r hr
  rcases List.mem_append.mp hr with hr | hr
  · exact (hsignSigns r hr).noComment
  · exact (hexpSigns r hr).noComment

theorem NoComment.delimit {a b : Text} {c : Char} (hc : SqlText.IsDelimiter c)
    (ha : NoComment a) (hb : NoComment b) : NoComment (a ++ c :: b) := by
  obtain ⟨ra, hra, hasigns⟩ := ha
  obtain ⟨rb, hrb, hbsigns⟩ := hb
  refine ⟨ra ++ rb, .delimit hc hra hrb, fun r hr => ?_⟩
  rcases List.mem_append.mp hr with hr | hr
  · exact hasigns r hr
  · exact hbsigns r hr

theorem NoComment.delimit_cons {b : Text} {c : Char} (hc : SqlText.IsDelimiter c)
    (hb : NoComment b) : NoComment (c :: b) :=
  NoComment.delimit hc (noComment_of_runs .nil) hb

theorem NoComment.delimit_concat {a : Text} {c : Char} (hc : SqlText.IsDelimiter c)
    (ha : NoComment a) : NoComment (a ++ [c]) :=
  NoComment.delimit hc ha (noComment_of_runs .nil)

/-! ## Names of operators -/

section

variable {pg : Postgres} {opno : Oid}

/-- The name that is written is the one of the catalog, but for `LIKE`. -/
theorem operatorName_cases (pg : Postgres) (opno : Oid) :
    (operatorName (pg.pgOperator opno) = "LIKE".toList ∧
      opno ∈ [OID_NAME_LIKE_OP, OID_TEXT_LIKE_OP, OID_BPCHAR_LIKE_OP]) ∨
    operatorName (pg.pgOperator opno) = (pg.pgOperator opno).oprname := by
  rw [operatorName, pg.pgOperator_oid]
  split_ifs with hlike
  · exact .inl ⟨rfl, hlike⟩
  · exact .inr rfl

/-- A prefix operator has a name of operator characters. -/
theorem isPrefixName_operatorName (hnames : pg.NamesOperators)
    (hop : (pg.pgOperator opno).oprnamespace = pgCatalogNamespace)
    (hkind : (pg.pgOperator opno).oprkind = .left) :
    IsPrefixName isOperatorChar (operatorName (pg.pgOperator opno)) := by
  rcases operatorName_cases pg opno with ⟨-, hlike⟩ | hname
  · rw [hnames.like opno hlike] at hkind
    cases hkind
  · rw [hname]
    exact ⟨(hnames.name opno hop).1, (hnames.name opno hop).2⟩

/-- The name of an operator has no blank. -/
theorem isInfixName_operatorName (hnames : pg.NamesOperators)
    (hop : (pg.pgOperator opno).oprnamespace = pgCatalogNamespace) :
    IsInfixName (operatorName (pg.pgOperator opno)) := by
  rcases operatorName_cases pg opno with ⟨hname, -⟩ | hname
  · have hlike : ' ' ∉ "LIKE".toList := by decide
    rw [hname]
    exact hlike
  · rw [hname, IsInfixName]
    intro hmem
    exact absurd (List.all_eq_true.mp (hnames.name opno hop).2 ' ' hmem) (by decide)

theorem noComment_operatorName (hnames : pg.NamesOperators)
    (hop : (pg.pgOperator opno).oprnamespace = pgCatalogNamespace) :
    NoComment (operatorName (pg.pgOperator opno)) := by
  rcases operatorName_cases pg opno with ⟨hname, -⟩ | hname
  · rw [hname]
    exact noComment_of_runs (SqlText.runs_nil_of_foldl rfl)
  · rw [hname]
    refine ⟨_, .operator (hnames.name opno hop).1 (hnames.name opno hop).2, fun r hr => ?_⟩
    rw [List.mem_singleton.mp hr]
    exact hnames.noComment opno hop

end

/-! ## Reading one condition -/

/-- What holds of every readable node: it is written as the text of its tree, which can be read
and has no comments. -/
structure Reads (context : DeparseContext) (e : Node) : Prop where
  renders : Renders (deparseExpr context e)
    (some ((conditionTree context e).text (Operand.text context.pg)))
  wellFormed : (conditionTree context e).Forall Operand.IsWritten (IsPrefixName isOperatorChar)
    IsInfixName
  noComment : NoComment ((conditionTree context e).text (Operand.text context.pg))

section

variable {context : DeparseContext} {baserel : RelOptInfo}
  {valueOf : Oid → Datum → Option NumericValue} {round : Oid → ℚ → ℚ}

/-- A constant that is written as its operand. -/
theorem reads_const {c : Const}
    (htext : constText context.pg c = some ((constOperand context.pg c).text context.pg))
    (hwritten : (constOperand context.pg c).IsWritten)
    (hcomment : NoComment ((constOperand context.pg c).text context.pg)) :
    Reads context (.const c) := by
  have hrenders := renders_const context.pg c
  rw [htext] at hrenders
  constructor
  · rw [deparseExpr, conditionTree]
    exact hrenders
  · rw [conditionTree]
    exact hwritten
  · rw [conditionTree]
    exact hcomment

/-- A date or a timestamp, which is written as its call. -/
theorem reads_call {c : Const} {text : Text} {k : SqlText.Call} (hnull : c.constisnull = false)
    (hdatum : datumText context.pg c.constvalue c.consttype = some text)
    (hoperand : constOperand context.pg c = .call k) (hname : k.name ∈ constantFunctions)
    (htext : text = (Operand.call k).text context.pg) (hruns : Runs text []) :
    Reads context (.const c) := by
  subst htext
  apply reads_const
  · rw [constText, hnull, if_neg Bool.false_ne_true, hdatum, hoperand]
  · rw [hoperand]
    exact hname
  · rw [hoperand]
    exact noComment_of_runs hruns

/-- A column of a relation that is scanned alone. -/
theorem reads_var (hbase : context.OnBaseRel baserel)
    (hrelids : context.scanrel.relids.length ≤ 1) {v : Var}
    (own : v.varno ∈ context.scanrel.relids ∧ v.varlevelsup = 0)
    (htext : columnText context.pg v.varno v.varattno (context.root.rtFetch v.varno) false =
      some ((varOperand context v).text context.pg))
    (hwritten : (varOperand context v).IsWritten) : Reads context (.var v) := by
  have hrenders := renders_var hbase v
  have hqualify : decide (1 < context.scanrel.relids.length) = false :=
    decide_eq_false (Nat.not_lt.mpr hrelids)
  rw [exprText, if_pos own, hqualify, htext] at hrenders
  constructor
  · rw [deparseExpr, conditionTree]
    exact hrenders
  · rw [conditionTree]
    exact hwritten
  · rw [conditionTree]
    exact noComment_of_runs (runs_columnText htext)

theorem reads_column (hbase : context.OnBaseRel baserel)
    (hrelids : context.scanrel.relids.length ≤ 1) {v : Var} {attr : FormPgAttribute}
    (own : v.varno ∈ context.scanrel.relids ∧ v.varlevelsup = 0) (hattno : 0 < v.varattno)
    (hattr : (context.root.rtFetch v.varno).tupdesc[v.varattno.toNat - 1]? = some attr) :
    Reads context (.var v) := by
  have hne : v.varattno ≠ selfItemPointerAttributeNumber := by
    rw [selfItemPointerAttributeNumber]
    omega
  have hoperand : varOperand context v = .column (remoteColumnName attr) := by
    rw [varOperand, if_neg hne, tupleDescAttr, hattr]
  have hpos : 0 < v.varattno.toNat := by omega
  have htext := columnText_of_attr context.pg v.varno false hpos hattr
  rw [Int.toNat_of_nonneg (Int.le_of_lt hattno)] at htext
  apply reads_var hbase hrelids own
  · rw [htext, hoperand]
    rfl
  · rw [hoperand]
    trivial

theorem reads_rowid (hbase : context.OnBaseRel baserel)
    (hrelids : context.scanrel.relids.length ≤ 1) {v : Var}
    (own : v.varno ∈ context.scanrel.relids ∧ v.varlevelsup = 0)
    (hattno : v.varattno = selfItemPointerAttributeNumber) : Reads context (.var v) := by
  have hoperand : varOperand context v = .rowid := if_pos hattno
  apply reads_var hbase hrelids own
  · rw [hoperand, columnText, if_pos (.inl hattno), columnRefText, hattno]
    rfl
  · rw [hoperand]
    trivial

theorem reads_number (hprints : PrintsNumbers context.pg valueOf round) {c : Const} {q : ℚ}
    (hnull : c.constisnull = false) (htype : c.consttype ∈ numericTypes)
    (hfinite : valueOf c.consttype c.constvalue = some (.finite q)) :
    Reads context (.const c) := by
  obtain ⟨n, hn, -, hout⟩ := hprints.finite htype hfinite
  have hoperand : constOperand context.pg c = .number n.text := by
    rw [constOperand, if_pos htype, hout]
  apply reads_const
  · rw [constText_number hnull htype, hoperand, hout]
    rfl
  · rw [hoperand]
    exact ⟨n, hn, rfl⟩
  · rw [hoperand]
    exact noComment_numeral hn

theorem reads_date {c : Const} (hnull : c.constisnull = false) (htype : c.consttype = DATEOID)
    (hfinite : dateNotFinite c.constvalue.toInt = false) : Reads context (.const c) := by
  have hdatum := datumText_date context.pg hfinite
  rw [← htype] at hdatum
  refine reads_call hnull hdatum (k := dateCall context.pg c.constvalue.toInt) ?_
    (List.mem_cons_self ..) (dateText_eq_call ..) (runs_dateText _ _)
  rw [constOperand, htype]
  rfl

theorem reads_timestamp {c : Const} (hnull : c.constisnull = false)
    (htype : c.consttype = TIMESTAMPOID ∨ c.consttype = TIMESTAMPTZOID)
    (hfinite : timestampNotFinite c.constvalue.toInt = false) : Reads context (.const c) := by
  rcases htype with htype | htype
  · have hdatum := datumText_ts context.pg hfinite
    rw [← htype] at hdatum
    refine reads_call hnull hdatum (k := tsCall context.pg c.constvalue.toInt) ?_
      (List.mem_cons_of_mem _ (List.mem_cons_self ..)) (tsText_eq_call ..) (runs_tsText _ _)
    rw [constOperand, htype]
    rfl
  · have hdatum := datumText_tsTz context.pg hfinite
    rw [← htype] at hdatum
    refine reads_call hnull hdatum (k := tsTzCall context.pg c.constvalue.toInt) ?_
      (List.mem_cons_of_mem _ (List.mem_cons_of_mem _ (List.mem_cons_self ..)))
      (tsTzText_eq_call ..) (runs_tsTzText _ _)
    rw [constOperand, htype]
    rfl

theorem reads_string {c : Const} (hnull : c.constisnull = false)
    (htype : c.consttype ∈ stringTypes)
    (hne : context.pg.outputFunctionCall (context.pg.pgType c.consttype).typoutput c.constvalue ≠
      []) : Reads context (.const c) := by
  obtain ⟨hnumeric, hdate, hts, htstz⟩ := stringTypes_disjoint c.consttype htype
  have hoperand : constOperand context.pg c = .string (context.pg.outputFunctionCall
      (context.pg.pgType c.consttype).typoutput c.constvalue) := by
    rw [constOperand, if_neg hnumeric, if_neg hdate, if_neg hts, if_neg htstz]
  have htext := datumText_string context.pg c.constvalue htype
  have hliteral := stringLiteral_of_ne hne
  apply reads_const
  · rw [constText, hnull, if_neg Bool.false_ne_true, htext, hoperand, hliteral]
    rfl
  · rw [hoperand]
    trivial
  · rw [hoperand]
    exact noComment_of_runs (.quoted (by decide) _)

section

variable {opno inputcollid opcollid : Oid} (hnames : context.pg.NamesOperators)
  (hop : (context.pg.pgOperator opno).oprnamespace = pgCatalogNamespace)
include hnames hop

theorem Reads.unary {arg : Node} (hkind : (context.pg.pgOperator opno).oprkind = .left)
    (harg : Reads context arg) : Reads context (.opExpr opno inputcollid opcollid [arg]) := by
  have htree : conditionTree context (.opExpr opno inputcollid opcollid [arg]) =
      .unary (operatorName (context.pg.pgOperator opno)) (conditionTree context arg) := by
    rw [conditionTree, conditionTrees, conditionTrees, operatorTree.eq_def, hkind]
  have hrenders := renders_operator hop (.cons harg.renders .nil)
  rw [operatorText.eq_def, hkind] at hrenders
  constructor
  · rw [deparseExpr, deparseExprs, deparseExprs, htree]
    exact hrenders
  · rw [htree]
    exact ⟨isPrefixName_operatorName hnames hop hkind, harg.wellFormed⟩
  · -- the blank keeps the name apart from the sign of a number
    rw [htree]
    exact .delimit_cons (by decide) (.delimit (by decide) (noComment_operatorName hnames hop)
      (.delimit_concat (by decide) harg.noComment))

theorem Reads.binary {lhs rhs : Node} (hkind : (context.pg.pgOperator opno).oprkind = .both)
    (hlhs : Reads context lhs) (hrhs : Reads context rhs) :
    Reads context (.opExpr opno inputcollid opcollid [lhs, rhs]) := by
  have htree : conditionTree context (.opExpr opno inputcollid opcollid [lhs, rhs]) =
      .binary (operatorName (context.pg.pgOperator opno)) (conditionTree context lhs)
        (conditionTree context rhs) := by
    rw [conditionTree, conditionTrees, conditionTrees, conditionTrees, operatorTree.eq_def, hkind]
  have hrenders := renders_operator hop (.cons hlhs.renders (.cons hrhs.renders .nil))
  rw [operatorText.eq_def, hkind] at hrenders
  constructor
  · rw [deparseExpr, deparseExprs, deparseExprs, deparseExprs, htree]
    exact hrenders
  · rw [htree]
    exact ⟨isInfixName_operatorName hnames hop, hlhs.wellFormed, hrhs.wellFormed⟩
  · rw [htree]
    exact .delimit_cons (by decide) (.delimit (by decide) hlhs.noComment
      (.delimit (by decide) (noComment_operatorName hnames hop)
        (.delimit_concat (by decide) hrhs.noComment)))

end

/-- **A readable condition is written as its tree.** By induction on the condition; the
parentheses around every operator make the order of the operators irrelevant. -/
theorem IsReadable.reads (hbase : context.OnBaseRel baserel)
    (hrelids : context.scanrel.relids.length ≤ 1) (hnames : context.pg.NamesOperators)
    (hprints : PrintsNumbers context.pg valueOf round) {e : Node}
    (h : IsReadable context valueOf e) : Reads context e := by
  induction h with
  | column own hattno hattr => exact reads_column hbase hrelids own hattno hattr
  | rowid own hattno => exact reads_rowid hbase hrelids own hattno
  | number hnull htype hfinite => exact reads_number hprints hnull htype hfinite
  | date hnull htype hfinite => exact reads_date hnull htype hfinite
  | timestamp hnull htype hfinite => exact reads_timestamp hnull htype hfinite
  | string hnull htype hne => exact reads_string hnull htype hne
  | unary hop hkind _ ih => exact ih.unary hnames hop hkind
  | binary hop hkind _ _ ihl ihr => exact ihl.binary hnames hop hkind ihr

/-! ## Reading all conditions -/

/-- The text of conditions without comments. -/
theorem noComment_conditions {texts : List Text} (h : ∀ t ∈ texts, NoComment t) :
    NoComment (List.intercalate " AND ".toList (texts.map parenthesised)) := by
  induction texts with
  | nil => exact noComment_of_runs .nil
  | cons t rest ih =>
    have hfirst : NoComment (parenthesised t) :=
      .delimit_cons (by decide) (.delimit_concat (by decide) (h t (List.mem_cons_self ..)))
    rcases rest with _ | ⟨next, rest⟩
    · rw [List.map_singleton, List.intercalate_singleton]
      exact hfirst
    · have hrest := ih fun u hu => h u (List.mem_cons_of_mem _ hu)
      rw [List.map_cons, List.map_cons, List.intercalate_cons_cons, ← List.map_cons,
        List.append_assoc]
      exact .delimit (by decide) hfirst (.delimit_cons (by decide) (.delimit_cons (by decide)
        (.delimit_cons (by decide) (.delimit_cons (by decide) hrest))))

/-- **The conditions are uniquely readable.** The text of the WHERE clause is read in one way
only, as the trees of the conditions: no operator binds an operand of its neighbour, and nothing
that a constant or a name contains ends its token. -/
theorem conditions_uniquelyReadable (hbase : context.OnBaseRel baserel)
    (hrelids : context.scanrel.relids.length ≤ 1) (hnames : context.pg.NamesOperators)
    (hprints : PrintsNumbers context.pg valueOf round) {exprs : List Node} (hne : exprs ≠ [])
    (h : ∀ e ∈ exprs, IsReadable context valueOf e) :
    ∃ text, UniquelyReadable context exprs text := by
  -- structural induction on each condition; the rest is about the list
  have hreads : ∀ e ∈ exprs, Reads context e :=
    fun e he => (h e he).reads hbase hrelids hnames hprints
  let trees := exprs.map (conditionTree context)
  let texts := trees.map (Term.text (Operand.text context.pg))
  have hall : List.Forall₂ (fun e t => Renders (deparseExpr context e) (some t)) exprs texts := by
    rw [List.forall₂_map_right_iff, List.forall₂_map_right_iff, List.forall₂_same]
    exact fun e he => (hreads e he).renders
  have hrenders := renders_conditions hall
  have hwritten : ∀ s, s.pdepth = 0 → appendConditions context exprs s = .ok ()
      { s with buf := s.buf ++ List.intercalate " AND ".toList (texts.map parenthesised) } :=
    fun s hs => hrenders s (Int.le_of_eq hs.symm)
  have htext : List.intercalate " AND ".toList (texts.map parenthesised) =
      Terms.conditionsText (Operand.text context.pg) trees := by
    rw [Terms.conditionsText, List.map_map]
    rfl
  have htrees : ∀ t ∈ trees,
      t.Forall Operand.IsWritten (IsPrefixName isOperatorChar) IsInfixName := by
    intro t ht
    obtain ⟨e, he, rfl⟩ := List.mem_map.mp ht
    exact (hreads e he).wellFormed
  refine ⟨_, hwritten, ?_, ?_, ?_⟩
  · intro s hs
    have hdepth : decide (s.pdepth ≠ 0) = false := decide_eq_false (not_not.mpr hs)
    rw [Proc.bind_of_ok (hwritten s hs), remoteSqlCheckSanity, Proc.read_bind_run]
    dsimp only
    rw [hdepth]
    rfl
  · rw [readConditions, htext]
    have htreesNe : trees ≠ [] := List.map_eq_nil_iff.not.mpr hne
    exact Terms.read_conditionsText (Operand.operandSyntax context.pg) htreesNe htrees
  · have hcomments : ∀ t ∈ texts, NoComment t := by
      intro t ht
      obtain ⟨tree, htree, rfl⟩ := List.mem_map.mp ht
      obtain ⟨e, he, rfl⟩ := List.mem_map.mp htree
      exact (hreads e he).noComment
    obtain ⟨rs, hruns, hrs⟩ := noComment_conditions hcomments
    rw [hruns.operatorRuns_eq]
    exact hrs

end

/-- The small catalog, with the minus operators of integers. -/
def Postgres.withMinus : Postgres :=
  { Postgres.small with
    pgOperator := fun oid =>
      if oid = 555 then ⟨555, "-".toList, .both, pgCatalogNamespace⟩
      else if oid = 558 then ⟨558, "-".toList, .left, pgCatalogNamespace⟩
      else Postgres.small.pgOperator oid
    pgOperator_oid := by
      intro oid
      split_ifs with hminus hneg
      · exact hminus.symm
      · exact hneg.symm
      · rfl
    pgOperator_namespace := by
      intro oid _
      split_ifs <;> rfl }

theorem withMinus_printsNumbers : PrintsNumbers .withMinus smallValueOf fun _ q => q :=
  ⟨small_printsNumbers.integer, small_printsNumbers.numeric, small_printsNumbers.float,
    small_printsNumbers.nan, small_printsNumbers.infinity, small_printsNumbers.negInfinity⟩

theorem withMinus_oprname {p : Text → Prop} (hdefault : p "?".toList) (hminus : p "-".toList)
    (h : ∀ op ∈ smallOperators, p op.2.toList) (oid : Oid) :
    p (Postgres.withMinus.pgOperator oid).oprname := by
  dsimp only [Postgres.withMinus]
  split_ifs
  · exact hminus
  · exact hminus
  · exact Postgres.small_oprname hdefault h oid

theorem withMinus_namesOperators : Postgres.withMinus.NamesOperators where
  name oid _ := withMinus_oprname (p := fun name => name ≠ [] ∧ name.all isOperatorChar = true)
    (by decide) (by decide) (by decide) oid
  noComment oid _ := withMinus_oprname (p := fun name => ¬ "--".toList <:+: name)
    (by decide) (by decide) (by decide) oid
  like := by decide

/-- A scan of the table in this backend. -/
def minusScan : DeparseContext :=
  selectContext .withMinus ⟨fun _ => textTable⟩ .scanOfTable false false

theorem minusScan_onBaseRel : minusScan.OnBaseRel .scanOfTable :=
  selectContext_onBaseRel _ _ rfl _ _

/-- An integer. -/
def intConst (v : Int) : Node := .const ⟨INT4OID, invalidOid, .word v, false⟩

theorem intConst_isReadable (v : Int) : IsReadable minusScan smallValueOf (intConst v) := by
  have htype : INT4OID ∈ numericTypes := by decide
  exact .number rfl htype rfl

/-- `(c = 'x'') AND (''')` and `((3 - (- -5)) = 8)`: a literal has the text that separates
conditions, and a minus stands before a negative number. -/
theorem minusScan_uniquelyReadable : ∃ text, UniquelyReadable minusScan
    [textCondition 98 "x') AND ('", .opExpr 96 invalidOid invalidOid
      [.opExpr 555 invalidOid invalidOid
        [intConst 3, .opExpr 558 invalidOid invalidOid [intConst (-5)]], intConst 8]] text := by
  apply conditions_uniquelyReadable minusScan_onBaseRel (by decide) withMinus_namesOperators
    withMinus_printsNumbers (List.cons_ne_nil _ _)
  intro e he
  rcases List.mem_cons.mp he with rfl | he
  · have hc : IsReadable minusScan smallValueOf (.var ⟨1, 1, TEXTOID, defaultCollationOid, 0⟩) :=
      .column ⟨by decide, rfl⟩ (by decide) rfl
    have hstr : IsReadable minusScan smallValueOf
        (.const ⟨TEXTOID, defaultCollationOid, .cstring "x') AND ('".toList, false⟩) :=
      .string rfl (by decide) (by decide)
    exact .binary rfl rfl hc hstr
  · obtain rfl := List.mem_singleton.mp he
    have hneg : IsReadable minusScan smallValueOf
        (.opExpr 558 invalidOid invalidOid [intConst (-5)]) :=
      .unary rfl rfl (intConst_isReadable _)
    exact .binary rfl rfl (.binary rfl rfl (intConst_isReadable 3) hneg) (intConst_isReadable 8)

end TiberoFdw
