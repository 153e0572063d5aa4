import TiberoFdw.Lib.OperatorRuns
import TiberoFdw.Verdict
import TiberoFdw.Datetimes
import TiberoFdw.Deparsable

/-!
# The operators of the remote SQL

Outside quotes the text of an expression has the names of its operators, and the signs of
its numbers (`runs_expr`). The inspector refuses two operators by their identifiers; the
operators of the same names for other types are written as they are
(`shipsNoMissing_iff`).
-/

namespace TiberoFdw

open SqlText (Runs operatorRuns isOperatorChar IsDelimiter isQuote)

/-- The operators that Tibero does not have. -/
def missingOperators : List Text := ["%".toList, "~".toList]

/-- No run of operator characters of the text is one of them. -/
def ShipsNoMissing (text : Text) : Prop := ∀ name ∈ missingOperators, name ∉ operatorRuns text

/-- What is documented of the names of operators and of the output of numbers. -/
structure Postgres.WritesOperators (pg : Postgres) : Prop where
  operators : ∀ oid, oid < firstGenbkiObjectId →
    (pg.pgOperator oid).oprname ≠ [] ∧ (pg.pgOperator oid).oprname.all isOperatorChar = true
  like : ∀ oid ∈ [OID_NAME_LIKE_OP, OID_TEXT_LIKE_OP, OID_BPCHAR_LIKE_OP],
    (pg.pgOperator oid).oprname = "~~".toList
  numbers : ∀ type ∈ numericTypes, ∀ datum,
    ∀ c ∈ pg.outputFunctionCall (pg.pgType type).typoutput datum,
      c.isAlphanum = true ∨ c ∈ "+-.".toList

/-! ## What is written -/

/-- The operators that a name is written as. -/
def nameRuns (op : FormPgOperator) : List Text :=
  if op.oid ∈ [OID_NAME_LIKE_OP, OID_TEXT_LIKE_OP, OID_BPCHAR_LIKE_OP] then [] else [op.oprname]

/-- The signs of a number. -/
def constRuns (pg : Postgres) (c : Const) : List Text :=
  if c.constisnull = false ∧ c.consttype ∈ numericTypes then
    operatorRuns (pg.outputFunctionCall (pg.pgType c.consttype).typoutput c.constvalue)
  else []

/-- The operators of an operator expression, from those of its arguments. -/
def opExprRuns (op : FormPgOperator) (args : List (List Text)) : List Text :=
  match op.oprkind, args with
  | .left, [rhs] => nameRuns op ++ rhs
  | .both, [lhs, rhs] => lhs ++ (nameRuns op ++ rhs)
  | _, _ => []

mutual

/-- The operators of an expression, from left to right. -/
def exprRuns (pg : Postgres) : Node → List Text
  | .const c => constRuns pg c
  | .opExpr opno _ _ args => opExprRuns (pg.pgOperator opno) (exprRunsList pg args)
  | _ => []

/-- The runs in each of the arguments. -/
def exprRunsList (pg : Postgres) : List Node → List (List Text)
  | [] => []
  | e :: rest => exprRuns pg e :: exprRunsList pg rest

end

/-! ## Columns -/

theorem isDelimiter_of_isIdentChar {c : Char} (hc : isIdentChar c = true) : IsDelimiter c := by
  constructor
  · by_contra hop
    rw [Bool.not_eq_false, isOperatorChar, List.contains_iff_mem] at hop
    have hall : (SqlText.operatorChars.all fun d => !isIdentChar d) = true := by decide
    have hno := List.all_eq_true.mp hall c hop
    rw [hc] at hno
    cases hno
  · by_contra hquote
    rw [Bool.not_eq_false, isQuote, Bool.or_eq_true, beq_iff_eq, beq_iff_eq] at hquote
    rcases hquote with rfl | rfl <;> exact absurd hc (by decide)

theorem runs_quoteIdentifier (pg : Postgres) (ident : Text) :
    Runs (pg.quoteIdentifier ident) [] := by
  rw [Postgres.quoteIdentifier]
  by_cases hsafe : pg.identIsSafe ident = true
  · rw [if_pos hsafe]
    simp only [Postgres.identIsSafe, Bool.and_eq_true] at hsafe
    obtain ⟨⟨-, hall⟩, -⟩ := hsafe
    exact .delimiters fun c hc => isDelimiter_of_isIdentChar (List.all_eq_true.mp hall c hc)
  · rw [if_neg hsafe]
    exact .quoted (by decide) ident

/-- The qualifier of a column and its period. -/
theorem runs_qualified (varno : Nat) (qualifyCol : Bool) {name : Text} (h : Runs name []) :
    Runs ((if qualifyCol then relQualifier varno else []) ++ name) [] := by
  cases qualifyCol
  · exact h
  · have hdigits : Runs ('r' :: decimal varno) [] := by
      refine .delimiters fun c hc => isDelimiter_of_isIdentChar ?_
      rcases List.mem_cons.mp hc with rfl | hc
      · decide
      · rw [isIdentChar, List.all_eq_true.mp (decimal_all_isDigit varno) c hc, Bool.or_true,
          Bool.true_or]
    have hqualified := Runs.delimit (c := '.') (by decide) hdigits h
    simpa [relQualifier] using hqualified

theorem runs_columnText {pg : Postgres} {varno : Nat} {varattno : Int} {rel : Relation}
    {qualifyCol : Bool} {text : Text}
    (h : columnText pg varno varattno rel qualifyCol = some text) : Runs text [] := by
  rw [columnText] at h
  split_ifs at h
  unfold columnRefText at h
  dsimp only at h
  by_cases hctid : varattno = selfItemPointerAttributeNumber
  · rw [if_pos hctid] at h
    obtain rfl := Option.some.inj h
    exact runs_qualified varno qualifyCol (SqlText.runs_nil_of_foldl rfl)
  · rw [if_neg hctid] at h
    obtain ⟨attr, -, rfl⟩ := Option.map_eq_some_iff.mp h
    exact runs_qualified varno qualifyCol (runs_quoteIdentifier pg _)

/-! ## Constants -/

theorem runs_stringLiteral (str : Text) : Runs (stringLiteral str) [] := by
  cases str with
  | nil => exact SqlText.runs_nil_of_foldl rfl
  | cons c rest =>
    rw [stringLiteral, quoteLoop_eq]
    exact .quoted (by decide) (c :: rest)

theorem runs_dateText (pg : Postgres) (date : Int) : Runs (dateText pg date) [] := by
  unfold dateText
  apply SqlText.runs_around (q := '\'') rfl ?_ rfl
  simp [quote_not_mem_printfD]

theorem runs_tsText (pg : Postgres) (timestamp : Int) : Runs (tsText pg timestamp) [] := by
  unfold tsText
  exact SqlText.runs_around (q := '\'') rfl (quote_not_mem_timestampText _ _) rfl

theorem runs_tsTzText (pg : Postgres) (timestamp : Int) : Runs (tsTzText pg timestamp) [] := by
  unfold tsTzText
  obtain ⟨tzoffset, tm, fsec⟩ := pg.timestamp2tmTz timestamp
  dsimp only
  generalize (-tzoffset).tdiv 3600 = hours
  generalize (if 0 < tzoffset then tzoffset.tmod 3600 else (-tzoffset).tmod 3600).tdiv 60 = minutes
  have hbody : '\'' ∉ timestampText tm fsec ++
      (printfPlusD 3 hours ++ ':' :: printfD 2 minutes) := by
    simp [quote_not_mem_timestampText, quote_not_mem_printfPlusD, quote_not_mem_printfD]
  have hruns := @SqlText.runs_around '\'' "TO_TIMESTAMP_TZ('".toList _
    "', 'SYYYY-MM-DD HH24:MI:SS.FF TZH:TZM')".toList rfl hbody rfl
  simpa only [List.append_assoc] using hruns

theorem isQuote_of_number {c : Char} (h : c.isAlphanum = true ∨ c ∈ "+-.".toList) :
    isQuote c = false := by
  by_contra hquote
  rw [Bool.not_eq_false, isQuote, Bool.or_eq_true, beq_iff_eq, beq_iff_eq] at hquote
  rcases hquote with rfl | rfl <;> exact absurd h (by decide)

theorem runs_datumText {pg : Postgres} (hpg : pg.WritesOperators) {datum : Datum} {dataType : Oid}
    {text : Text} (h : datumText pg datum dataType = some text) :
    Runs text (if dataType ∈ numericTypes then
      operatorRuns (pg.outputFunctionCall (pg.pgType dataType).typoutput datum) else []) := by
  unfold datumText at h
  by_cases hnumeric : dataType ∈ numericTypes
  · rw [if_pos hnumeric] at h
    obtain rfl := Option.some.inj h
    rw [if_pos hnumeric]
    exact (SqlText.runs_of_plain fun c hc =>
      isQuote_of_number (hpg.numbers dataType hnumeric datum c hc)).1
  · rw [if_neg hnumeric] at h ⊢
    split_ifs at h
    · obtain rfl := Option.some.inj h
      exact runs_dateText pg _
    · obtain rfl := Option.some.inj h
      exact runs_tsText pg _
    · obtain rfl := Option.some.inj h
      exact runs_tsTzText pg _
    · obtain rfl := Option.some.inj h
      exact runs_stringLiteral _
    · obtain ⟨str, -, rfl⟩ := Option.map_eq_some_iff.mp h
      exact runs_stringLiteral str

/-- A constant has no operators but the signs of a number. -/
theorem runs_constText {pg : Postgres} (hpg : pg.WritesOperators) {c : Const} {text : Text}
    (h : constText pg c = some text) : Runs text (constRuns pg c) := by
  rw [constText] at h
  rw [constRuns]
  rcases hnull : c.constisnull with _ | _
  · rw [hnull, if_neg Bool.false_ne_true] at h
    have hruns := runs_datumText hpg h
    simpa using hruns
  · rw [hnull, if_pos rfl] at h
    obtain rfl := Option.some.inj h
    rw [if_neg (by simp)]
    exact SqlText.runs_nil_of_foldl rfl

/-! ## Expressions -/

/-- The name of an operator. -/
theorem runs_operatorName {pg : Postgres} (hpg : pg.WritesOperators) {opno : Oid}
    (hop : opno < firstGenbkiObjectId) :
    Runs (operatorName (pg.pgOperator opno)) (nameRuns (pg.pgOperator opno)) := by
  rw [operatorName, nameRuns]
  split_ifs
  · exact SqlText.runs_nil_of_foldl rfl
  · exact .operator (hpg.operators opno hop).1 (hpg.operators opno hop).2

/-- The text of an argument has these operators. -/
def ArgRuns (text : Option Text) (rs : List Text) : Prop := ∀ t, text = some t → Runs t rs

/-- An operator expression, from its arguments. -/
theorem runs_operatorText {pg : Postgres} (hpg : pg.WritesOperators) {opno : Oid}
    (hop : opno < firstGenbkiObjectId) {args : List (Option Text)} {rss : List (List Text)}
    (hargs : List.Forall₂ ArgRuns args rss) {text : Text}
    (h : operatorText (pg.pgOperator opno) args = some text) :
    Runs text (opExprRuns (pg.pgOperator opno) rss) := by
  have hname := runs_operatorName hpg hop
  rcases operatorText_eq_some h with ⟨hkind, t, rfl, rfl⟩ | ⟨hkind, tl, tr, rfl, rfl⟩
  · obtain _ | ⟨hrhs, _ | _⟩ := hargs
    rw [opExprRuns.eq_def, hkind]
    exact .delimit_cons (by decide)
      (.delimit (by decide) hname (.delimit_concat (by decide) (hrhs t rfl)))
  · obtain _ | ⟨hlhs, _ | ⟨hrhs, _ | _⟩⟩ := hargs
    rw [opExprRuns.eq_def, hkind]
    exact .delimit_cons (by decide) (.delimit (by decide) (hlhs tl rfl)
      (.delimit (by decide) hname (.delimit_concat (by decide) (hrhs tr rfl))))

mutual

/-- **The operators outside quotes** are those of the expression, by induction on it. What a string
constant or a quoted name contains does not count. -/
theorem runs_expr {context : DeparseContext} (hpg : context.pg.WritesOperators)
    {relids : List Nat} :
    ∀ e : Node, Shippable context.pg relids e → ArgRuns (exprText context e) (exprRuns context.pg e)
  | .var v, _, text, h => by
    rw [exprText] at h
    split_ifs at h
    rw [exprRuns]
    · exact runs_columnText h
    all_goals simp
  | .const c, _, text, h => by
    rw [exprText] at h
    rw [exprRuns]
    exact runs_constText hpg h
  | .opExpr opno _ _ args, hs, text, h => by
    rw [Shippable] at hs
    rw [exprText] at h
    rw [exprRuns]
    exact runs_operatorText hpg hs.1.1 (runs_exprs hpg args hs.2.2.1) h
  | .list elements, _, text, h => by simp [exprText] at h
  | .param _, hs, _, _ => by simp [Shippable] at hs
  | .funcExpr .., hs, _, _ => by simp [Shippable] at hs
  | .distinctExpr .., hs, _, _ => by simp [Shippable] at hs
  | .boolExpr _, hs, _, _ => by simp [Shippable] at hs
  | .nullTest _, hs, _, _ => by simp [Shippable] at hs
  | .arrayExpr .., hs, _, _ => by simp [Shippable] at hs
  | .aggref .., hs, _, _ => by simp [Shippable] at hs
  | .other .., hs, _, _ => by simp [Shippable] at hs

theorem runs_exprs {context : DeparseContext} (hpg : context.pg.WritesOperators)
    {relids : List Nat} :
    ∀ l : List Node, ShippableList context.pg relids l →
      List.Forall₂ ArgRuns (exprTexts context l) (exprRunsList context.pg l)
  | [], _ => by
    rw [exprTexts, exprRunsList]
    exact .nil
  | e :: rest, hs => by
    rw [ShippableList] at hs
    rw [exprTexts, exprRunsList]
    exact .cons (runs_expr hpg e hs.1) (runs_exprs hpg rest hs.2)

end

/-! ## Where an operator comes from -/

/-- The operators that one node writes itself. -/
def ownRuns (pg : Postgres) : Node → List Text
  | .const c => constRuns pg c
  | .opExpr opno _ _ _ => nameRuns (pg.pgOperator opno)
  | _ => []

theorem reaches_opExpr {opno inputcollid opcollid : Oid} {args : List Node} {node : Node} :
    Reaches (.opExpr opno inputcollid opcollid args) node ↔
      node = .opExpr opno inputcollid opcollid args ∨ ∃ arg ∈ args, Reaches arg node := by
  constructor
  · intro h
    cases h with
    | here => exact .inl rfl
    | arg harg h => exact .inr ⟨_, harg, h⟩
  · rintro (rfl | ⟨arg, harg, h⟩)
    · exact .here _
    · exact .arg harg h

theorem mem_opExprRuns {op : FormPgOperator} {args : List (Option Text)} {rss : List (List Text)}
    (hlength : args.length = rss.length) (htext : (operatorText op args).isSome = true)
    {name : Text} : name ∈ opExprRuns op rss ↔ name ∈ nameRuns op ∨ ∃ rs ∈ rss, name ∈ rs := by
  obtain ⟨text, htext⟩ := Option.isSome_iff_exists.mp htext
  rcases operatorText_eq_some htext with ⟨hkind, t, rfl, -⟩ | ⟨hkind, tl, tr, rfl, -⟩
  · obtain ⟨rhs, rfl⟩ := List.length_eq_one_iff.mp hlength.symm
    rw [opExprRuns.eq_def, hkind]
    simp
  · obtain ⟨lhs, rhs, rfl⟩ := List.length_eq_two.mp hlength.symm
    rw [opExprRuns.eq_def, hkind]
    simp only [List.mem_append, List.mem_cons, List.not_mem_nil, or_false, exists_eq_or_imp,
      exists_eq_left]
    tauto

theorem length_exprRunsList (pg : Postgres) (l : List Node) :
    (exprRunsList pg l).length = l.length := by
  induction l with
  | nil => rfl
  | cons e rest ih => rw [exprRunsList, List.length_cons, List.length_cons, ih]

/-- The arguments of an operator that has a text have texts. -/
theorem isSome_args {op : FormPgOperator} {args : List (Option Text)}
    (h : (operatorText op args).isSome = true) : ∀ arg ∈ args, arg.isSome = true := by
  obtain ⟨text, htext⟩ := Option.isSome_iff_exists.mp h
  rcases operatorText_eq_some htext with ⟨-, t, rfl, -⟩ | ⟨-, tl, tr, rfl, -⟩
  · simp
  · simp

mutual

/-- An operator of an expression comes from one of its nodes. -/
theorem mem_exprRuns {context : DeparseContext} {name : Text} :
    ∀ e : Node, (exprText context e).isSome = true →
      (name ∈ exprRuns context.pg e ↔ ∃ node, Reaches e node ∧ name ∈ ownRuns context.pg node)
  | .var v, _ => by
    constructor
    · intro h
      simp [exprRuns] at h
    · rintro ⟨node, hreach, hname⟩
      cases hreach
      simp [ownRuns] at hname
  | .const c, _ => by
    constructor
    · intro h
      rw [exprRuns] at h
      exact ⟨_, .here _, h⟩
    · rintro ⟨node, hreach, hname⟩
      cases hreach
      rw [exprRuns]
      exact hname
  | .opExpr opno inputcollid opcollid args, h => by
    rw [exprText] at h
    -- each argument has its own runs, and the node adds its name
    have hlength : (exprTexts context args).length = (exprRunsList context.pg args).length := by
      rw [length_exprTexts, length_exprRunsList]
    rw [exprRuns, mem_opExprRuns hlength h, mem_exprRunsList args (isSome_args h)]
    constructor
    · rintro (hname | ⟨e, he, node, hreach, hname⟩)
      · exact ⟨_, .here _, hname⟩
      · exact ⟨node, .arg he hreach, hname⟩
    · rintro ⟨node, hreach, hname⟩
      rcases reaches_opExpr.mp hreach with rfl | ⟨e, he, hreach⟩
      · exact .inl hname
      · exact .inr ⟨e, he, node, hreach, hname⟩
  | .list _, h => by simp [exprText] at h
  | .param _, h => by simp [exprText] at h
  | .funcExpr .., h => by simp [exprText] at h
  | .distinctExpr .., h => by simp [exprText] at h
  | .boolExpr _, h => by simp [exprText] at h
  | .nullTest _, h => by simp [exprText] at h
  | .arrayExpr .., h => by simp [exprText] at h
  | .aggref .., h => by simp [exprText] at h
  | .other .., h => by simp [exprText] at h

theorem mem_exprRunsList {context : DeparseContext} {name : Text} :
    ∀ l : List Node, (∀ t ∈ exprTexts context l, t.isSome = true) →
      ((∃ rs ∈ exprRunsList context.pg l, name ∈ rs) ↔
        ∃ e ∈ l, ∃ node, Reaches e node ∧ name ∈ ownRuns context.pg node)
  | [], _ => by simp [exprRunsList]
  | e :: rest, h => by
    rw [exprTexts, List.forall_mem_cons] at h
    rw [exprRunsList]
    simp only [List.mem_cons, exists_eq_or_imp]
    rw [mem_exprRuns e h.1, mem_exprRunsList rest h.2]

end

/-! ## Missing operators -/

/-- The signs of a number are none of the missing operators. -/
theorem not_mem_constRuns {pg : Postgres} (hpg : pg.WritesOperators) {name : Text}
    (hname : name ∈ missingOperators) (c : Const) : name ∉ constRuns pg c := by
  rw [constRuns]
  split_ifs with hnumeric
  · intro hmem
    have hnumber := hpg.numbers _ hnumeric.2 c.constvalue
    have hruns := SqlText.runs_of_plain fun d hd => isQuote_of_number (hnumber d hd)
    have hchars := (hruns.2 name hmem).2
    simp only [missingOperators, List.mem_cons, List.not_mem_nil, or_false] at hname
    rcases hname with rfl | rfl
    · exact absurd (hnumber '%' (hchars '%' (by decide))) (by decide)
    · exact absurd (hnumber '~' (hchars '~' (by decide))) (by decide)
  · exact List.not_mem_nil

/-- An operator that is written as `LIKE` is not one of them. -/
theorem mem_nameRuns {pg : Postgres} (hpg : pg.WritesOperators) {opno : Oid} {name : Text}
    (hname : name ∈ missingOperators) :
    name ∈ nameRuns (pg.pgOperator opno) ↔ (pg.pgOperator opno).oprname = name := by
  rw [nameRuns, pg.pgOperator_oid]
  split_ifs with hlike
  · rw [hpg.like opno hlike]
    apply iff_of_false List.not_mem_nil
    rintro rfl
    exact absurd hname (by decide)
  · rw [List.mem_singleton, eq_comm]

/-- **Missing operators are not shipped exactly when no operator of the expression has the name
of one**, by whatever identifier. The inspector refuses two identifiers, and the same name has
others for other types. -/
theorem shipsNoMissing_iff {context : DeparseContext} {baserel : RelOptInfo}
    (hbase : context.OnBaseRel baserel) (hpg : context.pg.WritesOperators) {e : Node}
    (haccepted : exprInspectShippability context.pg baserel e = true) {text : Text}
    (htext : Renders (deparseExpr context e) (some text)) :
    ShipsNoMissing text ↔
      ∀ opno inputcollid opcollid args, Reaches e (.opExpr opno inputcollid opcollid args) →
        (context.pg.pgOperator opno).oprname ∉ missingOperators := by
  have hs := exprInspectShippability_eq_true_iff.mp haccepted
  have hexpr : exprText context e = some text := (renders_accepted hbase hs).some_iff.mp htext
  have hisSome : (exprText context e).isSome = true := by rw [hexpr, Option.isSome_some]
  -- the runs of the text are those of the nodes, whatever is quoted
  rw [ShipsNoMissing, (runs_expr hpg e hs text hexpr).operatorRuns_eq]
  constructor
  · intro h opno inputcollid opcollid args hreach hmem
    refine h _ hmem ((mem_exprRuns e hisSome).mpr ⟨_, hreach, ?_⟩)
    rw [ownRuns, mem_nameRuns hpg hmem]
  · intro h name hname hmem
    obtain ⟨node, hreach, hown⟩ := (mem_exprRuns e hisSome).mp hmem
    cases node with
    | const c => exact not_mem_constRuns hpg hname c hown
    | opExpr opno inputcollid opcollid args =>
      rw [ownRuns, mem_nameRuns hpg hname] at hown
      exact h _ _ _ _ hreach (hown ▸ hname)
    | _ => simp [ownRuns] at hown

/-! ## A backend with some of the operators -/

/-- A backend that has `%` of `int8`, `~` of `text` and `~~`; other operators are `=`. Numbers
are printed as integers. -/
def Postgres.withMissing : Postgres where
  __ := Postgres.small
  pgOperator := fun oid =>
    ⟨oid,
      if oid = 439 then "%".toList
      else if oid = 641 then "~".toList
      else if oid ∈ [OID_NAME_LIKE_OP, OID_TEXT_LIKE_OP, OID_BPCHAR_LIKE_OP] then "~~".toList
      else "=".toList,
      .both, pgCatalogNamespace⟩
  pgOperator_oid := fun _ => rfl
  pgOperator_namespace := fun _ _ => rfl
  outputFunctionCall := fun function datum =>
    if function ∈ numericTypes then printfD 0 datum.toInt
    else Postgres.small.outputFunctionCall function datum

theorem mem_printfD {width : Nat} {v : Int} {c : Char} (h : c ∈ printfD width v) :
    c.isAlphanum = true ∨ c ∈ "+-.".toList := by
  have hpad : ∀ width n, c ∈ zeroPad width (decimal n) → c.isAlphanum = true := by
    intro width n hmem
    rw [Char.isAlphanum, List.all_eq_true.mp (zeroPad_all_isDigit width n) c hmem, Bool.or_true]
  rw [printfD] at h
  split_ifs at h
  · rcases List.mem_cons.mp h with rfl | h
    · exact .inr (by decide)
    · exact .inl (hpad _ _ h)
  · exact .inl (hpad _ _ h)

theorem withMissing_writesOperators : Postgres.withMissing.WritesOperators where
  operators oid _ := by
    dsimp only [Postgres.withMissing]
    split_ifs <;> decide
  like := by decide
  numbers type htype datum c hc := by
    have hprint : Postgres.withMissing.outputFunctionCall
        (Postgres.withMissing.pgType type).typoutput datum = printfD 0 datum.toInt := if_pos htype
    rw [hprint] at hc
    exact mem_printfD hc

/-- A scan of the table in this backend. -/
def missingScan : DeparseContext :=
  selectContext .withMissing ⟨fun _ => textTable⟩ .scanOfTable false false

theorem missingScan_onBaseRel : missingScan.OnBaseRel .scanOfTable :=
  selectContext_onBaseRel _ _ rfl _ _

theorem missingScan_renders {e : Node}
    (haccepted : exprInspectShippability missingScan.pg .scanOfTable e = true) {text : Text}
    (htext : exprText missingScan e = some text) :
    Renders (deparseExpr missingScan e) (some text) :=
  (renders_accepted missingScan_onBaseRel
    (exprInspectShippability_eq_true_iff.mp haccepted)).some_iff.mpr htext

/-- The condition `c = '~'`, with the name of a missing operator in a literal. -/
theorem equals_shipsNoMissing : ShipsNoMissing "(c = '~')".toList := by
  have haccepted : exprInspectShippability missingScan.pg .scanOfTable (textCondition 98 "~") =
    true := by decide
  refine (shipsNoMissing_iff missingScan_onBaseRel withMissing_writesOperators haccepted
    (missingScan_renders haccepted (by decide))).mpr ?_
  intro opno inputcollid opcollid args hreach
  rcases reaches_opExpr.mp hreach with heq | ⟨arg, harg, hreach⟩
  · obtain ⟨rfl, -⟩ := Node.opExpr.inj heq
    decide
  · simp only [List.mem_cons, List.not_mem_nil, or_false] at harg
    rcases harg with rfl | rfl <;> cases hreach

/-- The regular expression match of text has the identifier 641, which the inspector accepts. -/
theorem textRegex_shipped : ∃ text,
    exprInspectShippability missingScan.pg .scanOfTable (textCondition 641 "a.c") = true ∧
    Renders (deparseExpr missingScan (textCondition 641 "a.c")) (some text) ∧
    ¬ ShipsNoMissing text := by
  have haccepted : exprInspectShippability missingScan.pg .scanOfTable (textCondition 641 "a.c") =
    true := by decide
  refine ⟨"(c ~ 'a.c')".toList, haccepted, missingScan_renders haccepted (by decide), ?_⟩
  intro h
  exact h "~".toList (by decide) (by decide)

end TiberoFdw
