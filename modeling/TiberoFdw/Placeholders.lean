import Mathlib.Algebra.GroupWithZero.Nat
import TiberoFdw.Lib.Markers
import TiberoFdw.Bindings

/-!
# Placeholders and parameters

The text of a plan has a placeholder for the snapshot when a flashback query is
planned in a transaction that takes a snapshot for every statement, and a question
mark for every one in the name of an operator of its conditions. At execution
`tiberoBeginForeignScan` asks for the isolation level once more and binds one
parameter or none. The two numbers agree when both moments have the same isolation
level and no operator name has a question mark; otherwise only by accident
(`bindsPlaceholders_iff`).
-/

namespace TiberoFdw

open SqlText (Marks Plain markers isQuote)

/-! ## What the deparser writes -/

/-- When the deparser returns, it has written a text with that many markers. -/
def Writes {α : Type} (n : Nat) (d : Deparse α) : Prop :=
  ∀ s a s', d s = .ok a s' → ∃ text, s'.buf = s.buf ++ text ∧ Marks text n

namespace Writes

variable {α β : Type} {m n : Nat} {d : Deparse α} {f : α → Deparse β}

theorem pure (a : α) : Writes 0 (Pure.pure a : Deparse α) := by
  rintro s _ _ ⟨⟩
  exact ⟨[], (List.append_nil _).symm, .nil⟩

theorem raise (err : DeparseError) : Writes n (Proc.raise err : Deparse α) := by
  rintro s a s' ⟨⟩

theorem append {text : Text} (h : Marks text n) : Writes n (appendStringInfoString text) := by
  rintro s _ _ ⟨⟩
  exact ⟨text, rfl, h⟩

theorem bind (hd : Writes m d) (hf : ∀ a, Writes n (f a)) : Writes (m + n) (d >>= f) := by
  rintro s b s' hrun
  obtain ⟨a, s₁, hfirst, hrest⟩ := Proc.bind_eq_ok.mp hrun
  obtain ⟨text, hbuf, htext⟩ := hd s a s₁ hfirst
  obtain ⟨text', hbuf', htext'⟩ := hf a s₁ b s' hrest
  refine ⟨text ++ text', ?_, htext.append htext'⟩
  rw [hbuf', hbuf, List.append_assoc]

/-- After a part without markers. -/
theorem after (hd : Writes 0 d) (hf : ∀ a, Writes n (f a)) : Writes n (d >>= f) := by
  rw [← Nat.zero_add n]
  exact hd.bind hf

theorem of_eq (hd : Writes m d) (hmn : m = n) : Writes n d := hmn ▸ hd

theorem read_bind {g : RemoteSqlInfo → Deparse β} (h : ∀ s, Writes n (g s)) :
    Writes n (Proc.read >>= g) :=
  fun s => h s s

/-- A part without markers that may be left out. -/
theorem optional {condition : Bool} {d : Deparse Unit} (hd : Writes 0 d) :
    Writes 0 (Proc.when condition d) := by
  cases condition
  · exact Writes.pure ()
  · exact hd

end Writes

theorem writes_assertion (holds : Bool) : Writes 0 (assertion holds) := by
  cases holds
  · exact .raise _
  · exact .pure ()

theorem writes_visitStub (kind : StubKind) : Writes 0 (visitStub kind) := by
  rintro s _ _ ⟨⟩
  exact ⟨[], (List.append_nil _).symm, .nil⟩

theorem writes_open : Writes 0 remoteSqlOpenParenthesis := by
  rintro s _ _ ⟨⟩
  exact ⟨['('], rfl, SqlText.marks_of_foldl rfl⟩

theorem writes_close : Writes 0 remoteSqlCloseParenthesis := by
  have hclose : Writes 0 (Proc.modify fun s : RemoteSqlInfo =>
      { s with buf := s.buf ++ [')'], pdepth := s.pdepth - 1 } : Deparse Unit) := by
    rintro s _ _ ⟨⟩
    exact ⟨[')'], rfl, SqlText.marks_of_foldl rfl⟩
  exact hclose.after fun _ => .read_bind fun _ => writes_assertion _

/-- A text that is given, without markers. -/
theorem writes_text {text : Text} (h : text.foldl SqlText.markStep (.plain, 0) = (.plain, 0)) :
    Writes 0 (appendStringInfoString text) :=
  .append (SqlText.marks_of_foldl h)

/-! ## Identifiers and columns -/

/-- No character of an unquoted identifier is a quote or a question mark. -/
theorem plain_of_isIdentChar {c : Char} (hc : isIdentChar c = true) :
    isQuote c = false ∧ c ≠ '?' := by
  constructor
  · by_contra hquote
    rw [Bool.not_eq_false, isQuote, Bool.or_eq_true, beq_iff_eq, beq_iff_eq] at hquote
    rcases hquote with rfl | rfl <;> exact absurd hc (by decide)
  · rintro rfl
    exact absurd hc (by decide)

theorem marks_quoteIdentifier (pg : Postgres) (ident : Text) :
    Marks (pg.quoteIdentifier ident) 0 := by
  rw [Postgres.quoteIdentifier]
  by_cases hsafe : pg.identIsSafe ident = true
  · rw [if_pos hsafe]
    simp only [Postgres.identIsSafe, Bool.and_eq_true] at hsafe
    obtain ⟨⟨-, hall⟩, -⟩ := hsafe
    apply Plain.marks
    exact fun c hc => plain_of_isIdentChar (List.all_eq_true.mp hall c hc)
  · rw [if_neg hsafe]
    exact SqlText.marks_quoted (by decide) ident

/-- The digits of a number. -/
theorem plain_decimal (n : Nat) : Plain (decimal n) := by
  intro c hc
  have hdigit : c.isDigit = true := Nat.isDigit_of_mem_toDigits (by decide) (by decide) hc
  apply plain_of_isIdentChar
  rw [isIdentChar, hdigit, Bool.or_true, Bool.true_or]

theorem marks_decimal (n : Nat) : Marks (decimal n) 0 := (plain_decimal n).marks

theorem marks_relQualifier (varno : Nat) : Marks (relQualifier varno) 0 := by
  have hr : Marks ['r'] 0 := SqlText.marks_of_foldl rfl
  have hdot : Marks ['.'] 0 := SqlText.marks_of_foldl rfl
  exact hr.append ((marks_decimal varno).append hdot)

/-- The qualifier of a column, if it has one. -/
theorem marks_qualifier (varno : Nat) (qualifyCol : Bool) :
    Marks (if qualifyCol then relQualifier varno else []) 0 := by
  cases qualifyCol
  · exact .nil
  · exact marks_relQualifier varno

theorem writes_columnRef (pg : Postgres) (varno : Nat) (varattno : Int) (rel : Relation)
    (qualifyCol : Bool) : Writes 0 (deparseColumnRef pg varno varattno rel qualifyCol) := by
  refine (writes_assertion _).after fun _ => ?_
  rcases htext : columnRefText pg varno varattno rel qualifyCol with _ | text
  · exact .raise _
  · apply Writes.append
    unfold columnRefText at htext
    by_cases hctid : varattno = selfItemPointerAttributeNumber
    · have hrowid : Marks "ROWID".toList 0 := SqlText.marks_of_foldl rfl
      rw [if_pos hctid] at htext
      cases htext
      exact (marks_qualifier varno qualifyCol).append hrowid
    · rw [if_neg hctid] at htext
      obtain ⟨attr, -, rfl⟩ := Option.map_eq_some_iff.mp htext
      exact (marks_qualifier varno qualifyCol).append (marks_quoteIdentifier pg _)

/-! ## Constants -/

/-- The texts that are written as they are: numbers have neither quotes nor
question marks, and the names of operators have no quotes. -/
structure Postgres.PrintsPlainly (pg : Postgres) : Prop where
  numbers : ∀ type ∈ numericTypes, ∀ datum,
    Plain (pg.outputFunctionCall (pg.pgType type).typoutput datum)
  operators : ∀ oid, ∀ c ∈ (pg.pgOperator oid).oprname, isQuote c = false

theorem writes_stringLiteral (str : Text) : Writes 0 (deparseStringLiteral str) := by
  unfold deparseStringLiteral
  split
  · exact writes_text rfl
  · rw [quoteLoop_eq]
    exact .append (SqlText.marks_quoted (by decide) _)

theorem plain_zeroPad {width : Nat} {digits : Text} (h : Plain digits) :
    Plain (zeroPad width digits) := by
  refine Plain.append (fun c hc => ?_) h
  rw [(List.mem_replicate.mp hc).2]
  exact ⟨by decide, by decide⟩

theorem plain_printfD (width : Nat) (v : Int) : Plain (printfD width v) := by
  rw [printfD]
  split_ifs
  · exact .cons ⟨by decide, by decide⟩ (plain_zeroPad (plain_decimal _))
  · exact plain_zeroPad (plain_decimal _)

theorem plain_printfPlusD (width : Nat) (v : Int) : Plain (printfPlusD width v) := by
  rw [printfPlusD]
  refine .cons ?_ (plain_zeroPad (plain_decimal _))
  split_ifs <;> exact ⟨by decide, by decide⟩

theorem plain_timestampText (tm : PgTm) (fsec : Int) : Plain (timestampText tm fsec) := by
  have hnumber := fun width v => plain_printfD width v
  have hsign := fun (c : Char) (hc : isQuote c = false ∧ c ≠ '?') width v =>
    Plain.cons hc (hnumber width v)
  refine .append (.append (.append (.append (.append (.append (hnumber _ _) ?_) ?_) ?_) ?_) ?_) ?_
  all_goals exact hsign _ ⟨by decide, by decide⟩ _ _

theorem writes_dateDatum (pg : Postgres) (datum : Datum) :
    Writes 0 (deparseDateDatum pg datum) := by
  refine Writes.after (.optional (.raise _)) fun _ => ?_
  apply Writes.append
  have hsign := fun (v : Int) => Plain.cons (c := '-') ⟨by decide, by decide⟩ (plain_printfD 2 v)
  refine SqlText.marks_around (q := '\'') rfl (Plain.not_mem ?_ rfl) rfl
  exact ((plain_printfD 4 _).append (hsign _)).append (hsign _)

theorem writes_tsDatum (pg : Postgres) (datum : Datum) : Writes 0 (deparseTsDatum pg datum) := by
  refine Writes.after (.optional (.raise _)) fun _ => ?_
  apply Writes.append
  exact SqlText.marks_around (q := '\'') rfl ((plain_timestampText _ _).not_mem rfl) rfl

theorem marks_tsTzText (tm : PgTm) (fsec hours minutes : Int) :
    Marks ("TO_TIMESTAMP_TZ('".toList ++ timestampText tm fsec ++ printfPlusD 3 hours ++
      ':' :: printfD 2 minutes ++ "', 'SYYYY-MM-DD HH24:MI:SS.FF TZH:TZM')".toList) 0 := by
  have hplain : Plain
      (timestampText tm fsec ++ (printfPlusD 3 hours ++ ':' :: printfD 2 minutes)) :=
    (plain_timestampText tm fsec).append ((plain_printfPlusD 3 hours).append
      (.cons ⟨by decide, by decide⟩ (plain_printfD 2 minutes)))
  have htext : "TO_TIMESTAMP_TZ('".toList ++ timestampText tm fsec ++ printfPlusD 3 hours ++
      ':' :: printfD 2 minutes ++ "', 'SYYYY-MM-DD HH24:MI:SS.FF TZH:TZM')".toList =
      "TO_TIMESTAMP_TZ('".toList ++
        (timestampText tm fsec ++ (printfPlusD 3 hours ++ ':' :: printfD 2 minutes)) ++
        "', 'SYYYY-MM-DD HH24:MI:SS.FF TZH:TZM')".toList := by
    simp only [List.append_assoc]
  rw [htext]
  exact SqlText.marks_around (q := '\'') rfl (hplain.not_mem rfl) rfl

theorem writes_tsTzDatum (pg : Postgres) (datum : Datum) :
    Writes 0 (deparseTsTzDatum pg datum) := by
  refine Writes.after (.optional (.raise _)) fun _ => ?_
  apply Writes.append
  apply marks_tsTzText

theorem writes_datum {pg : Postgres} (hplain : pg.PrintsPlainly) (datum : Datum) (dataType : Oid) :
    Writes 0 (deparseDatum pg datum dataType) := by
  rw [deparseDatum]
  split_ifs with hnumeric
  · exact .append (hplain.numbers dataType hnumeric datum).marks
  · exact writes_dateDatum pg datum
  · exact writes_tsDatum pg datum
  · exact writes_tsTzDatum pg datum
  · exact writes_stringLiteral _
  · unfold deparseGenericDatum
    split
    · exact writes_stringLiteral _
    · exact .raise _

theorem writes_const {pg : Postgres} (hplain : pg.PrintsPlainly) (constant : Const) :
    Writes 0 (deparseExprForTConst pg constant) := by
  rw [deparseExprForTConst]
  split_ifs
  · exact writes_text rfl
  · exact writes_datum hplain _ _

/-! ## Expressions -/

theorem writes_var (context : DeparseContext) (v : Var) :
    Writes 0 (deparseExprForTVar context v) := by
  have hsubquery : Writes 0 (getSubqueryInfoFromVar context.foreignrel) := by
    refine Writes.after (writes_assertion _) fun _ => ?_
    split_ifs
    · exact .pure ()
    · exact writes_assertion _
  refine hsubquery.after fun _ => ?_
  split_ifs
  · exact writes_columnRef _ _ _ _ _
  · exact writes_assertion _

mutual

/-- The question marks in the operator names of an expression. -/
def Node.operatorMarkers (pg : Postgres) : Node → Nat
  | .opExpr opno _ _ args =>
    (operatorName (pg.pgOperator opno)).count '?' + operatorMarkersList pg args
  | _ => 0

/-- The question marks in all arguments. -/
def operatorMarkersList (pg : Postgres) : List Node → Nat
  | [] => 0
  | e :: rest => e.operatorMarkers pg + operatorMarkersList pg rest

end

theorem operatorMarkersList_eq (pg : Postgres) (l : List Node) :
    operatorMarkersList pg l = (l.map (Node.operatorMarkers pg)).sum := by
  induction l with
  | nil => rfl
  | cons e rest ih => rw [operatorMarkersList, ih, List.map_cons, List.sum_cons]

theorem writes_operatorName {pg : Postgres} (hplain : pg.PrintsPlainly) (opno : Oid) :
    Writes ((operatorName (pg.pgOperator opno)).count '?')
      (deparseOperatorName (pg.pgOperator opno)) := by
  refine (writes_assertion _).after fun _ => .append (SqlText.marks_plain ?_)
  intro c hc
  rw [operatorName] at hc
  split_ifs at hc
  · have hlike : ("LIKE".toList.all fun c => !isQuote c) = true := by decide
    simpa using List.all_eq_true.mp hlike c hc
  · exact hplain.operators opno c hc

/-- An operator, from what its arguments write. -/
theorem writes_opExpr {pg : Postgres} (hplain : pg.PrintsPlainly) (opno : Oid) {counts : List Nat}
    {args : List (Deparse Unit)} (hargs : List.Forall₂ Writes counts args) :
    Writes ((operatorName (pg.pgOperator opno)).count '?' + counts.sum)
      (deparseExprForTOpExpr pg opno args) := by
  have hname := writes_operatorName hplain opno
  have hspace : Writes 0 (appendStringInfoString [' ']) := writes_text rfl
  unfold deparseExprForTOpExpr
  dsimp only
  split
  · -- prefix
    rename_i rhs
    obtain _ | ⟨hrhs, _ | _⟩ := hargs
    refine writes_open.after fun _ => hname.bind fun _ => hspace.after fun _ => ?_
    exact hrhs.bind fun _ => writes_close
  · -- infix
    obtain _ | ⟨hlhs, _ | ⟨hrhs, _ | _⟩⟩ := hargs
    have hwrites := writes_open.after fun _ => hlhs.bind fun _ => hspace.after fun _ =>
      hname.bind fun _ => hspace.after fun _ => hrhs.bind fun _ => writes_close
    apply hwrites.of_eq
    simp only [List.sum_cons, List.sum_nil]
    omega
  · exact .raise _

mutual

/-- **An expression**: its markers are those in the names of its operators. Every other part is
quoted or has no question mark. -/
theorem writes_expr {context : DeparseContext} (hplain : context.pg.PrintsPlainly) :
    ∀ e : Node, Writes (e.operatorMarkers context.pg) (deparseExpr context e)
  | .var v => by
    rw [deparseExpr]
    exact writes_var context v
  | .const c => by
    rw [deparseExpr]
    exact writes_const hplain c
  | .opExpr opno _ _ args => by
    rw [deparseExpr, Node.operatorMarkers, operatorMarkersList_eq]
    exact writes_opExpr hplain opno (writes_exprs hplain args)
  | .param _ | .funcExpr .. | .distinctExpr .. | .boolExpr _ | .nullTest _ | .arrayExpr ..
  | .aggref .. => by
    rw [deparseExpr]
    exact writes_visitStub _
  | .list _ | .other .. => by
    rw [deparseExpr]
    exact .raise _

theorem writes_exprs {context : DeparseContext} (hplain : context.pg.PrintsPlainly) :
    ∀ l : List Node, List.Forall₂ Writes (l.map (Node.operatorMarkers context.pg))
      (deparseExprs context l)
  | [] => by
    rw [deparseExprs]
    exact .nil
  | e :: rest => by
    rw [deparseExprs]
    exact .cons (writes_expr hplain e) (writes_exprs hplain rest)

end

/-! ## The statement -/

/-- The question marks in the operator names of conditions. -/
def conditionMarkers (pg : Postgres) (exprs : List Node) : Nat :=
  (exprs.map (Node.operatorMarkers pg)).sum

theorem writes_conditions {context : DeparseContext} (hplain : context.pg.PrintsPlainly)
    (exprs : List Node) (isFirst : Bool) :
    Writes (conditionMarkers context.pg exprs) (appendConditionsLoop context exprs isFirst) := by
  induction exprs generalizing isFirst with
  | nil => exact .pure ()
  | cons e rest ih =>
    rw [appendConditionsLoop, conditionMarkers, List.map_cons, List.sum_cons]
    refine (Writes.optional (writes_text rfl)).after fun _ => writes_open.after fun _ => ?_
    exact (writes_expr hplain e).bind fun _ => writes_close.after fun _ => ih false

theorem writes_where {context : DeparseContext} (hplain : context.pg.PrintsPlainly)
    (exprs : List Node) :
    Writes (conditionMarkers context.pg exprs)
      (Proc.when (!exprs.isEmpty) (deparseWhereExpr context exprs)) := by
  cases exprs with
  | nil => exact .pure ()
  | cons e rest => exact (writes_text rfl).after fun _ => writes_conditions hplain _ true

theorem writes_targetSeparator (first isReturning : Bool) :
    Writes 0 (deparseTargetSeparator first isReturning) := by
  rw [deparseTargetSeparator]
  split_ifs
  · exact writes_text rfl
  · exact .optional (writes_text rfl)

theorem writes_targetListLoop (pg : Postgres) (rtindex : Nat) (rel : Relation)
    (isReturning : Bool) (attrsUsed : Bitmapset) (qualifyCol : Bool) (attrs : List FormPgAttribute)
    (i : Nat) (first : Bool) (retrievedAttrs : List Int) :
    Writes 0 (deparseTargetListLoop pg rtindex rel isReturning attrsUsed qualifyCol attrs i first
      retrievedAttrs) := by
  induction attrs generalizing i first retrievedAttrs with
  | nil => exact .pure _
  | cons attr rest ih =>
    rw [deparseTargetListLoop]
    split_ifs
    · exact ih _ _ _
    · refine (writes_targetSeparator _ _).after fun _ => ?_
      exact (writes_columnRef _ _ _ _ _).after fun _ => ih _ _ _
    · exact ih _ _ _

theorem writes_targetList (pg : Postgres) (rtindex : Nat) (rel : Relation) (isReturning : Bool)
    (attrsUsed : Bitmapset) (qualifyCol : Bool) :
    Writes 0 (deparseTargetList pg rtindex rel isReturning attrsUsed qualifyCol) := by
  refine (writes_targetListLoop pg rtindex rel isReturning attrsUsed qualifyCol _ _ _ _).after ?_
  rintro ⟨first, retrievedAttrs⟩
  dsimp only
  split_ifs
  · refine (writes_targetSeparator _ _).after fun _ => ?_
    refine (Writes.optional (.append (marks_relQualifier rtindex))).after fun _ => ?_
    exact (writes_text rfl).after fun _ => .pure _
  · exact (Writes.optional (writes_text rfl)).after fun _ => .pure _

/-- The placeholder of the snapshot. -/
theorem writes_relation (context : DeparseContext) (rel : Relation) (useFbQuery : Bool) :
    Writes (if useFbQuery && !context.isolationUsesXactSnapshot then 1 else 0)
      (deparseRelation context rel useFbQuery) := by
  have hclause : Marks
      (if useFbQuery && !context.isolationUsesXactSnapshot then " as of tsn ?".toList else [])
      (if useFbQuery && !context.isolationUsesXactSnapshot then 1 else 0) := by
    split_ifs
    · exact SqlText.marks_of_foldl rfl
    · exact .nil
  have hdot : Marks ['.'] 0 := SqlText.marks_of_foldl rfl
  have hname := fun name => marks_quoteIdentifier context.pg name
  rw [deparseRelation]
  rcases lastOption "owner_name" rel.options with _ | ownerName
  · exact .of_eq (.append ((hname _).append hclause)) (Nat.zero_add _)
  · refine .of_eq (.append (Marks.append ?_ hclause)) (Nat.zero_add _)
    exact (hname ownerName).append (hdot.append (hname _))

theorem writes_from {context : DeparseContext} (hplain : context.pg.PrintsPlainly)
    (quals : List Node) :
    Writes ((if context.useFbQuery && !context.isolationUsesXactSnapshot then 1 else 0) +
      conditionMarkers context.pg quals) (deparseFromExpr context quals) := by
  have halias : Marks (' ' :: 'r' :: decimal context.scanrel.relid) 0 := by
    have hr : Marks [' ', 'r'] 0 := SqlText.marks_of_foldl rfl
    exact hr.append (marks_decimal _)
  refine (writes_text rfl).after fun _ => (writes_relation context _ _).bind fun _ => ?_
  exact (Writes.optional (.append halias)).after fun _ => writes_where hplain quals

/-- **The statement**: the placeholder of the snapshot, and the question marks in
the operator names. -/
theorem writes_select {context : DeparseContext} (hplain : context.pg.PrintsPlainly)
    (attrsUsed : Bitmapset) (remoteConds : List Node) :
    Writes ((if context.useFbQuery && !context.isolationUsesXactSnapshot then 1 else 0) +
      conditionMarkers context.pg remoteConds)
      (deparseSelectStmtForRel context attrsUsed remoteConds) := by
  refine (writes_assertion _).after fun _ => (writes_text rfl).after fun _ => ?_
  refine (writes_targetList _ _ _ _ _ _).after fun retrievedAttrs => ?_
  have hsanity : Writes 0 remoteSqlCheckSanity :=
    .read_bind fun _ => .optional (.raise _)
  exact (writes_from hplain remoteConds).bind fun _ => hsanity.after fun _ => .pure retrievedAttrs

/-! ## The markers and the parameters of a plan -/

section

variable {pg : Postgres} {root : PlannerInfo} {foreignrel : RelOptInfo}
  {fpinfo : TbFdwRelationInfo} {isolationUsesXactSnapshot : Bool} {scanClauses : List RestrictInfo}
  {plan : ForeignScan}

variable (pg foreignrel fpinfo) in
/-- A scan clause is sent: it was found shippable when the relation was sized, or it has no verdict
from there and is found shippable now. -/
def isSent (rinfo : RestrictInfo) : Bool :=
  !rinfo.pseudoconstant && (listMemberPtr fpinfo.remoteConds rinfo ||
    !listMemberPtr fpinfo.localConds rinfo && exprInspectShippability pg foreignrel rinfo.clause)

variable (pg foreignrel fpinfo scanClauses) in
/-- The conditions that are sent, in the order of the scan clauses. -/
def sentQuals : List Node :=
  (scanClauses.filter (isSent pg foreignrel fpinfo)).map RestrictInfo.clause

theorem distributeClause_fst (exprs : List Node × List Node) (rinfo : RestrictInfo) :
    (distributeClause pg foreignrel fpinfo exprs rinfo).1 =
      exprs.1 ++ if isSent pg foreignrel fpinfo rinfo then [rinfo.clause] else [] := by
  rw [distributeClause, isSent]
  cases rinfo.pseudoconstant <;> cases listMemberPtr fpinfo.remoteConds rinfo <;>
    cases listMemberPtr fpinfo.localConds rinfo <;>
    cases exprInspectShippability pg foreignrel rinfo.clause <;> simp

theorem foldl_distributeClause_fst (exprs : List Node × List Node) :
    (scanClauses.foldl (distributeClause pg foreignrel fpinfo) exprs).1 =
      exprs.1 ++ sentQuals pg foreignrel fpinfo scanClauses := by
  induction scanClauses generalizing exprs with
  | nil => exact (List.append_nil _).symm
  | cons rinfo rest ih =>
    rw [List.foldl_cons, ih, distributeClause_fst, List.append_assoc, sentQuals, sentQuals,
      List.filter_cons]
    split_ifs <;> rfl

/-- The text of a plan. -/
theorem tiberoGetForeignPlan_markers (hplain : pg.PrintsPlainly)
    (hplan : tiberoGetForeignPlan pg root foreignrel fpinfo isolationUsesXactSnapshot scanClauses =
      .ok plan) :
    plan.useFbQuery = fpinfo.useFbQuery ∧
      markers plan.selectSql = (if fpinfo.useFbQuery && !isolationUsesXactSnapshot then 1 else 0) +
        conditionMarkers pg (sentQuals pg foreignrel fpinfo scanClauses) := by
  have hsent := @foldl_distributeClause_fst pg foreignrel fpinfo scanClauses ([], [])
  rw [tiberoGetForeignPlan] at hplan
  split_ifs at hplan
  generalize scanClauses.foldl (distributeClause pg foreignrel fpinfo) ([], []) = exprs
    at hplan hsent
  obtain ⟨remoteExprs, localExprs⟩ := exprs
  obtain rfl : remoteExprs = sentQuals pg foreignrel fpinfo scanClauses := hsent
  dsimp only at hplan
  rcases hrun : deparseSelectStmtForRel
      (selectContext pg root foreignrel fpinfo.useFbQuery isolationUsesXactSnapshot)
      fpinfo.attrsUsed (sentQuals pg foreignrel fpinfo scanClauses) RemoteSqlInfo.start with
    ⟨retrievedAttrs, s⟩ | ⟨err, s⟩
  · rw [hrun] at hplan
    cases hplan
    obtain ⟨text, hbuf, htext⟩ := @writes_select
      (selectContext pg root foreignrel fpinfo.useFbQuery isolationUsesXactSnapshot) hplain
      fpinfo.attrsUsed _ _ _ _ hrun
    refine ⟨rfl, ?_⟩
    rw [hbuf]
    exact htext.markers_eq
  · rw [hrun] at hplan
    cases hplan

end

/-- **The number of bound parameters**, decided by the isolation level at the
start of the execution. -/
theorem tiberoBeginForeignScan_binds {pg : Postgres} {env : Environment} {w w' : World}
    {rel : Relation} {user : UserMapping} {fsplan : ForeignScan} {fsstate : TbFdwScanState}
    (h : tiberoBeginForeignScan pg env rel user false fsplan w = .ok (some fsstate) w') :
    (w'.stmts fsstate.tbStmt.hstmt).params.length =
      if fsplan.useFbQuery && !w.isolationUsesXactSnapshot then 1 else 0 := by
  obtain ⟨stmt, w₁, hget, hstmt, hbound⟩ := tiberoBeginForeignScan_bound h
  have hmoment := (getTbStatement_moment user _ _).apply_ok rfl hget
  have hiso : w₁.isolationUsesXactSnapshot = w.isolationUsesXactSnapshot :=
    congrArg (·.isolationUsesXactSnapshot) hmoment
  rw [hstmt, hbound.params, hiso]
  split_ifs <;> rfl

/-! ## Agreement -/

/-- Whenever an execution of the plan at that isolation level begins, as many
parameters are bound as the text has markers. -/
def BindsPlaceholders (pg : Postgres) (plan : ForeignScan) (isolationUsesXactSnapshot : Bool) :
    Prop :=
  ∀ env rel user (w : World) fsstate w', w.isolationUsesXactSnapshot = isolationUsesXactSnapshot →
    tiberoBeginForeignScan pg env rel user false plan w = .ok (some fsstate) w' →
    (w'.stmts fsstate.tbStmt.hstmt).params.length = markers plan.selectSql

/-- There are such executions. -/
theorem exists_execution (pg : Postgres) (plan : ForeignScan) (isolationUsesXactSnapshot : Bool) :
    ∃ fsstate w', tiberoBeginForeignScan pg .succeeding textTable .sample false plan
      { World.start with isolationUsesXactSnapshot } = .ok (some fsstate) w' := by
  have hvalid : Environment.succeeding.OptionsValid pg := by
    rintro n serverid def_ ⟨⟩
  rcases hget : getTbStatement pg .succeeding .sample TbStatement.zeroed plan.useFbQuery
      { World.start with isolationUsesXactSnapshot, useSleepOnSig := true } with
    ⟨stmt, w₁⟩ | ⟨e, w₁⟩
  swap
  · exact absurd hvalid
      (getTbStatement_raisesOnly Environment.succeeding_allOk _ _ _ _ _ _ hget).2
  rw [tiberoBeginForeignScan, if_neg (by decide), setSleepOnSigOn, Proc.modify_bind_run]
  dsimp only
  rw [Proc.bind_of_ok hget]
  clear hget
  -- no result columns are described, and every call succeeds
  obtain ⟨isolation, start, trouble, keys, conn, got, sleep, lookups, stmts, trace⟩ := w₁
  obtain ⟨selectSql, retrievedAttrs, fetchSize, useFbQuery, localExprs, quals⟩ := plan
  cases isolation <;> cases useFbQuery <;> exact ⟨_, _, rfl⟩

/-- **Placeholders and parameters**: their numbers agree when the isolation level
has not changed since planning, or the scan is not a flashback one, and no operator
of the conditions that are sent has a question mark. Otherwise they agree by accident
only: one question mark makes up for the placeholder that planning has left out. -/
theorem bindsPlaceholders_iff {pg : Postgres} (hplain : pg.PrintsPlainly) {root : PlannerInfo}
    {foreignrel : RelOptInfo} {fpinfo : TbFdwRelationInfo} {planned : Bool}
    {scanClauses : List RestrictInfo} {plan : ForeignScan}
    (hplan : tiberoGetForeignPlan pg root foreignrel fpinfo planned scanClauses = .ok plan)
    (executed : Bool) :
    BindsPlaceholders pg plan executed ↔
      (conditionMarkers pg (sentQuals pg foreignrel fpinfo scanClauses) = 0 ∧
        (fpinfo.useFbQuery = true → planned = executed)) ∨
      (conditionMarkers pg (sentQuals pg foreignrel fpinfo scanClauses) = 1 ∧
        fpinfo.useFbQuery = true ∧ planned = true ∧ executed = false) := by
  obtain ⟨hflashback, hmarkers⟩ := tiberoGetForeignPlan_markers hplain hplan
  have hagree : BindsPlaceholders pg plan executed ↔
      (if plan.useFbQuery && !executed then 1 else 0) = markers plan.selectSql := by
    constructor
    · intro hbinds
      obtain ⟨fsstate, w', hbegin⟩ := exists_execution pg plan executed
      rw [← hbinds _ _ _ _ _ _ rfl hbegin, tiberoBeginForeignScan_binds hbegin]
    · rintro hcount env rel user w fsstate w' rfl hbegin
      rw [tiberoBeginForeignScan_binds hbegin, hcount]
  rw [hagree, hmarkers, hflashback]
  cases fpinfo.useFbQuery <;> cases planned <;> cases executed <;> simp <;> omega

/-- The small catalog, with numbers printed as integers. -/
def Postgres.printing : Postgres :=
  { Postgres.small with
    outputFunctionCall := fun function datum =>
      if function ∈ numericTypes then printfD 0 datum.toInt
      else Postgres.small.outputFunctionCall function datum }

theorem Postgres.printing_plainly : Postgres.printing.PrintsPlainly := by
  constructor
  · intro type htype datum
    have hprint : Postgres.printing.outputFunctionCall
        (Postgres.printing.pgType type).typoutput datum = printfD 0 datum.toInt := if_pos htype
    rw [hprint]
    exact plain_printfD 0 _
  · intro oid c hc
    have hall := Postgres.small_oprname (p := fun name => (name.all fun c => !isQuote c) = true)
      (by decide) (by decide) oid
    simpa using List.all_eq_true.mp hall c hc

/-- A flashback scan of the table with the condition `c = 'x'`. -/
def flashbackScan : TbFdwRelationInfo :=
  { TbFdwRelationInfo.default with
    useFbQuery := true
    remoteConds := [⟨1, textCondition 98 "x", false⟩] }

/-- Planned and executed in READ COMMITTED: one placeholder, one parameter. -/
theorem readCommitted_bindsPlaceholders :
    ∃ plan, tiberoGetForeignPlan .printing ⟨fun _ => textTable⟩ .scanOfTable flashbackScan false
        flashbackScan.remoteConds = .ok plan ∧ BindsPlaceholders .printing plan false := by
  have hplan : tiberoGetForeignPlan .printing ⟨fun _ => textTable⟩ .scanOfTable flashbackScan false
    flashbackScan.remoteConds = .ok _ := rfl
  refine ⟨_, hplan, ?_⟩
  rw [bindsPlaceholders_iff Postgres.printing_plainly hplan]
  exact .inl ⟨by decide, fun _ => rfl⟩

/-- Planned in READ COMMITTED, executed in REPEATABLE READ: no parameter is bound
for the placeholder. -/
theorem repeatableRead_not_bindsPlaceholders :
    ∃ plan, tiberoGetForeignPlan .printing ⟨fun _ => textTable⟩ .scanOfTable flashbackScan false
        flashbackScan.remoteConds = .ok plan ∧ ¬BindsPlaceholders .printing plan true := by
  refine ⟨_, rfl, fun hbinds => ?_⟩
  obtain ⟨fsstate, w', hbegin⟩ := exists_execution .printing _ true
  have hcount := hbinds _ _ _ _ _ _ rfl hbegin
  rw [tiberoBeginForeignScan_binds hbegin] at hcount
  exact absurd hcount (by decide)

end TiberoFdw
