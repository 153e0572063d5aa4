import TiberoFdw.Deparse

/-!
# What the deparser writes

For each function of the deparser, the text it appends, as a function of its
input alone. `Renders d (some text)` says that `d` appends exactly `text` and
changes nothing else; `Renders d none` says that `d` always fails. The
precondition on the parenthesis depth is what the assertion on closing needs.

The modules that reason about the remote SQL work with these texts and never
unfold the deparser.
-/

namespace TiberoFdw

/-! ## Rendering -/

/-- `d` appends the text, or fails when there is none. -/
def Renders (d : Deparse Unit) : Option Text → Prop
  | some text => ∀ s, 0 ≤ s.pdepth → d s = .ok () { s with buf := s.buf ++ text }
  | none => ∀ s, 0 ≤ s.pdepth → ∃ err s', d s = .raise err s'

/-- Like `Renders`, of a text that closes one parenthesis more than it opens. -/
def RendersClosing (d : Deparse Unit) : Option Text → Prop
  | some text =>
    ∀ s, 0 < s.pdepth → d s = .ok () { s with buf := s.buf ++ text, pdepth := s.pdepth - 1 }
  | none => ∀ s, 0 < s.pdepth → ∃ err s', d s = .raise err s'

/-- One text after the other, when both are there. -/
def followedBy (a b : Option Text) : Option Text := a.bind fun ta => b.map fun tb => ta ++ tb

@[simp] theorem followedBy_some (a b : Text) : followedBy (some a) (some b) = some (a ++ b) := rfl

@[simp] theorem followedBy_none (a : Option Text) : followedBy a none = none := by
  cases a <;> rfl

@[simp] theorem none_followedBy (b : Option Text) : followedBy none b = none := rfl

theorem renders_append (text : Text) : Renders (appendStringInfoString text) (some text) :=
  fun _ _ => rfl

theorem renders_pure : Renders (pure ()) (some []) := by
  intro s _
  simp

theorem renders_raise (err : DeparseError) : Renders (Proc.raise err) none :=
  fun s _ => ⟨err, s, rfl⟩

theorem renders_ereport (sqlerrcode : SqlState) (errmsg : String) :
    Renders (ereport sqlerrcode errmsg) none :=
  renders_raise _

/-- A computation has one rendering. -/
theorem Renders.some_iff {d : Deparse Unit} {t : Option Text} (h : Renders d t) {text : Text} :
    Renders d (some text) ↔ t = some text := by
  constructor
  · intro htext
    have hrun := htext RemoteSqlInfo.start (Int.le_refl 0)
    cases t with
    | none =>
      obtain ⟨err, s', hfail⟩ := h RemoteSqlInfo.start (Int.le_refl 0)
      rw [hfail] at hrun
      cases hrun
    | some text' =>
      rw [h RemoteSqlInfo.start (Int.le_refl 0)] at hrun
      simpa [RemoteSqlInfo.start] using hrun
  · rintro rfl
    exact h

theorem Renders.seq {a b : Deparse Unit} {ta tb : Option Text} (ha : Renders a ta)
    (hb : Renders b tb) : Renders (a >>= fun _ => b) (followedBy ta tb) := by
  rcases ta with _ | ta
  · intro s hs
    obtain ⟨err, s', he⟩ := ha s hs
    exact ⟨err, s', Proc.bind_of_raise he⟩
  · rcases tb with _ | tb
    · intro s hs
      obtain ⟨err, s', he⟩ := hb { s with buf := s.buf ++ ta } hs
      exact ⟨err, s', by rw [Proc.bind_of_ok (ha s hs), he]⟩
    · intro s hs
      rw [Proc.bind_of_ok (ha s hs), hb { s with buf := s.buf ++ ta } hs]
      simp

theorem Renders.seqClosing {a b : Deparse Unit} {ta tb : Option Text} (ha : Renders a ta)
    (hb : RendersClosing b tb) : RendersClosing (a >>= fun _ => b) (followedBy ta tb) := by
  rcases ta with _ | ta
  · intro s hs
    obtain ⟨err, s', he⟩ := ha s (Int.le_of_lt hs)
    exact ⟨err, s', Proc.bind_of_raise he⟩
  · rcases tb with _ | tb
    · intro s hs
      obtain ⟨err, s', he⟩ := hb { s with buf := s.buf ++ ta } hs
      exact ⟨err, s', by rw [Proc.bind_of_ok (ha s (Int.le_of_lt hs)), he]⟩
    · intro s hs
      rw [Proc.bind_of_ok (ha s (Int.le_of_lt hs)), hb { s with buf := s.buf ++ ta } hs]
      simp

theorem RendersClosing.seq {a b : Deparse Unit} {ta tb : Text} (ha : RendersClosing a (some ta))
    (hb : Renders b (some tb)) : RendersClosing (a >>= fun _ => b) (some (ta ++ tb)) := by
  intro s hs
  rw [Proc.bind_of_ok (ha s hs),
    hb { s with buf := s.buf ++ ta, pdepth := s.pdepth - 1 } (by change 0 ≤ s.pdepth - 1; omega)]
  simp

theorem rendersClosing_close : RendersClosing remoteSqlCloseParenthesis (some [')']) := by
  intro s hs
  have hdepth : decide (0 ≤ s.pdepth - 1) = true := by
    rw [decide_eq_true_eq]
    omega
  rw [remoteSqlCloseParenthesis, Proc.modify_bind_run, Proc.read_bind_run, hdepth]
  rfl

/-- An opening parenthesis before a text that closes it. -/
theorem renders_open {d : Deparse Unit} {t : Option Text} (hd : RendersClosing d t) :
    Renders (remoteSqlOpenParenthesis >>= fun _ => d) (t.map fun t => '(' :: t) := by
  have hopen : ∀ s, remoteSqlOpenParenthesis s =
      .ok () { s with buf := s.buf ++ ['('], pdepth := s.pdepth + 1 } := fun _ => rfl
  rcases t with _ | t
  · intro s hs
    obtain ⟨err, s', he⟩ := hd { s with buf := s.buf ++ ['('], pdepth := s.pdepth + 1 }
      (by change 0 < s.pdepth + 1; omega)
    exact ⟨err, s', by rw [Proc.bind_of_ok (hopen s), he]⟩
  · intro s hs
    rw [Proc.bind_of_ok (hopen s), hd { s with buf := s.buf ++ ['('], pdepth := s.pdepth + 1 }
      (by change 0 < s.pdepth + 1; omega)]
    simp

theorem renders_when {d : Deparse Unit} {t : Option Text} (condition : Bool) (hd : Renders d t) :
    Renders (Proc.when condition d) (if condition then t else some []) := by
  cases condition
  · exact renders_pure
  · exact hd

/-! ## Separated lists -/

/-- A separator before every item. -/
def eachAfter (sep : Text) (items : List Text) : Text := (items.map (sep ++ ·)).flatten

theorem intercalate_cons (sep item : Text) (items : List Text) :
    List.intercalate sep (item :: items) = item ++ eachAfter sep items := by
  induction items generalizing item with
  | nil => simp [eachAfter]
  | cons next rest ih =>
    rw [List.intercalate_cons_cons, ih]
    simp [eachAfter]

/-- What a loop writes that puts a separator before every item but the first. -/
def separated (sep : Text) (first : Bool) (items : List Text) : Text :=
  if first then List.intercalate sep items else eachAfter sep items

theorem separated_nil (sep : Text) (first : Bool) : separated sep first [] = [] := by
  cases first <;> rfl

theorem separated_cons (sep item : Text) (first : Bool) (items : List Text) :
    separated sep first (item :: items) =
      (if first then [] else sep) ++ (item ++ separated sep false items) := by
  cases first
  · simp [separated, eachAfter]
  · simp [separated, intercalate_cons]

open SqlText in
/-- Items separated by commas are read item by item. -/
theorem lexes_commaList {items : List Text} {tss : List (List Token)}
    (h : List.Forall₂ Lexes items tss) :
    Lexes (List.intercalate ", ".toList items) (List.intercalate [.sym ','] tss) := by
  induction h with
  | nil => exact Lexes.nil
  | @cons item ts items tss hitem hrest ih =>
    cases hrest with
    | nil =>
      rw [List.intercalate_singleton, List.intercalate_singleton]
      exact hitem
    | cons hnext hrest =>
      rw [List.intercalate_cons_cons, List.intercalate_cons_cons]
      have h := Lexes.sym (c := ',') (by decide) hitem (Lexes.space_cons ih)
      simpa using h

/-! ## Columns -/

/-- The text of a column reference in a position where one is allowed. -/
def columnText (pg : Postgres) (varno : Nat) (varattno : Int) (rel : Relation)
    (qualifyCol : Bool) : Option Text :=
  if varattno = selfItemPointerAttributeNumber ∨ 0 < varattno then
    columnRefText pg varno varattno rel qualifyCol
  else none

theorem renders_columnRef (pg : Postgres) (varno : Nat) (varattno : Int) (rel : Relation)
    (qualifyCol : Bool) :
    Renders (deparseColumnRef pg varno varattno rel qualifyCol)
      (columnText pg varno varattno rel qualifyCol) := by
  rw [columnText, deparseColumnRef]
  by_cases hok : varattno = selfItemPointerAttributeNumber ∨ 0 < varattno
  · rw [if_pos hok]
    simp only [assertion, hok, decide_true, if_true]
    rcases columnRefText pg varno varattno rel qualifyCol with _ | text
    · intro s hs
      exact ⟨_, s, rfl⟩
    · intro s hs
      rfl
  · rw [if_neg hok]
    simp only [assertion, hok, decide_false, Bool.false_eq_true, if_false]
    intro s hs
    exact ⟨_, s, rfl⟩

/-- The text of an existing column. -/
theorem columnText_of_attr (pg : Postgres) (varno : Nat) (qualifyCol : Bool) {i : Nat}
    {rel : Relation} {attr : FormPgAttribute} (hi : 0 < i)
    (hattr : rel.tupdesc[i - 1]? = some attr) :
    columnText pg varno i rel qualifyCol =
      some ((if qualifyCol then relQualifier varno else []) ++
        pg.quoteIdentifier (remoteColumnName attr)) := by
  have hpos : (0 : Int) < i := by omega
  have hne : (i : Int) ≠ selfItemPointerAttributeNumber := by
    simp only [selfItemPointerAttributeNumber]
    omega
  rw [columnText, if_pos (.inr hpos), columnRefText]
  simp only [hne, if_false]
  rw [tupleDescAttr, Int.toNat_natCast, hattr]
  rfl

/-! ## Constants -/

/-- The text of `deparse_string_literal`. -/
def stringLiteral : Text → Text
  | [] => "NULL".toList
  | c :: rest => '\'' :: (quoteLoop (c :: rest) ++ ['\''])

theorem renders_stringLiteral (str : Text) :
    Renders (deparseStringLiteral str) (some (stringLiteral str)) := by
  cases str with
  | nil => exact renders_append _
  | cons c rest => exact renders_append _

/-- The loop over the characters doubles the quotes. -/
theorem quoteLoop_eq (str : Text) : quoteLoop str = SqlText.escape '\'' str := by
  induction str with
  | nil => rfl
  | cons c rest ih =>
    rw [quoteLoop, SqlText.escape, ih]
    by_cases hc : c = '\''
    · subst hc
      rfl
    · rw [if_neg hc, if_neg hc]

/-- The literal of a string that is not empty. -/
theorem stringLiteral_of_ne {str : Text} (h : str ≠ []) :
    stringLiteral str = '\'' :: (SqlText.escape '\'' str ++ ['\'']) := by
  obtain ⟨c, rest, rfl⟩ := List.exists_cons_of_ne_nil h
  rw [stringLiteral, quoteLoop_eq]

/-- The text of a finite date. -/
def dateText (pg : Postgres) (date : Int) : Text :=
  let (tmYear, tmMon, tmMday) := pg.j2date (date + postgresEpochJdate)
  "(TO_DATE('".toList ++
    (printfD 4 tmYear ++ '-' :: printfD 2 tmMon ++ '-' :: printfD 2 tmMday) ++
    "', 'SYYYY-MM-DD'))".toList

/-- The text of a finite timestamp without time zone. -/
def tsText (pg : Postgres) (timestamp : Int) : Text :=
  let (tm, fsec) := pg.timestamp2tm timestamp
  "(TO_TIMESTAMP('".toList ++ timestampText tm fsec ++ "', 'SYYYY-MM-DD HH24:MI:SS.FF'))".toList

/-- The text of a finite timestamp with time zone. -/
def tsTzText (pg : Postgres) (timestamp : Int) : Text :=
  let (tzoffset, tm, fsec) := pg.timestamp2tmTz timestamp
  let hours := (-tzoffset).tdiv 3600
  let minutes := (if 0 < tzoffset then tzoffset.tmod 3600 else (-tzoffset).tmod 3600).tdiv 60
  "TO_TIMESTAMP_TZ('".toList ++ timestampText tm fsec ++
    printfPlusD 3 hours ++ ':' :: printfD 2 minutes ++
    "', 'SYYYY-MM-DD HH24:MI:SS.FF TZH:TZM')".toList

/-- The text of `deparse_datum`. -/
def datumText (pg : Postgres) (datum : Datum) (dataType : Oid) : Option Text :=
  if dataType ∈ numericTypes then
    some (pg.outputFunctionCall (pg.pgType dataType).typoutput datum)
  else if dataType = DATEOID then
    if dateNotFinite datum.toInt then none else some (dateText pg datum.toInt)
  else if dataType = TIMESTAMPOID then
    if timestampNotFinite datum.toInt then none else some (tsText pg datum.toInt)
  else if dataType = TIMESTAMPTZOID then
    if timestampNotFinite datum.toInt then none else some (tsTzText pg datum.toInt)
  else if dataType ∈ stringTypes then
    some (stringLiteral (pg.outputFunctionCall (pg.pgType dataType).typoutput datum))
  else datum.getCString.map stringLiteral

theorem datumText_date (pg : Postgres) {datum : Datum} (h : dateNotFinite datum.toInt = false) :
    datumText pg datum DATEOID = some (dateText pg datum.toInt) := by
  unfold datumText
  rw [if_neg (by decide), if_pos rfl, h]
  rfl

theorem datumText_ts (pg : Postgres) {datum : Datum}
    (h : timestampNotFinite datum.toInt = false) :
    datumText pg datum TIMESTAMPOID = some (tsText pg datum.toInt) := by
  unfold datumText
  rw [if_neg (by decide), if_neg (by decide), if_pos rfl, h]
  rfl

theorem datumText_tsTz (pg : Postgres) {datum : Datum}
    (h : timestampNotFinite datum.toInt = false) :
    datumText pg datum TIMESTAMPTZOID = some (tsTzText pg datum.toInt) := by
  unfold datumText
  rw [if_neg (by decide), if_neg (by decide), if_neg (by decide), if_pos rfl, h]
  rfl

/-- The types of strings have no other branch. -/
theorem stringTypes_disjoint : ∀ t ∈ stringTypes,
    t ∉ numericTypes ∧ t ≠ DATEOID ∧ t ≠ TIMESTAMPOID ∧ t ≠ TIMESTAMPTZOID := by decide

/-- A string is written as the literal of what its output function prints. -/
theorem datumText_string (pg : Postgres) (datum : Datum) {dataType : Oid}
    (h : dataType ∈ stringTypes) : datumText pg datum dataType =
      some (stringLiteral (pg.outputFunctionCall (pg.pgType dataType).typoutput datum)) := by
  obtain ⟨hnumeric, hdate, hts, htstz⟩ := stringTypes_disjoint dataType h
  unfold datumText
  rw [if_neg hnumeric, if_neg hdate, if_neg hts, if_neg htstz, if_pos h]

/-- A text that is written only after a check. -/
theorem renders_guarded (condition : Bool) (sqlerrcode : SqlState) (errmsg : String) (text : Text) :
    Renders (Proc.when condition (ereport sqlerrcode errmsg) >>= fun _ =>
      appendStringInfoString text) (if condition then none else some text) := by
  have h := (renders_when condition (renders_ereport sqlerrcode errmsg)).seq (renders_append text)
  cases condition <;> exact h

theorem renders_date (pg : Postgres) (datum : Datum) :
    Renders (deparseDateDatum pg datum)
      (if dateNotFinite datum.toInt then none else some (dateText pg datum.toInt)) :=
  renders_guarded ..

theorem renders_ts (pg : Postgres) (datum : Datum) :
    Renders (deparseTsDatum pg datum)
      (if timestampNotFinite datum.toInt then none else some (tsText pg datum.toInt)) :=
  renders_guarded ..

theorem renders_tsTz (pg : Postgres) (datum : Datum) :
    Renders (deparseTsTzDatum pg datum)
      (if timestampNotFinite datum.toInt then none else some (tsTzText pg datum.toInt)) :=
  renders_guarded ..

theorem renders_datum (pg : Postgres) (datum : Datum) (dataType : Oid) :
    Renders (deparseDatum pg datum dataType) (datumText pg datum dataType) := by
  unfold deparseDatum datumText
  by_cases hnum : dataType ∈ numericTypes
  · rw [if_pos hnum, if_pos hnum]
    exact renders_append _
  rw [if_neg hnum, if_neg hnum]
  by_cases hdate : dataType = DATEOID
  · rw [if_pos hdate, if_pos hdate]
    exact renders_date pg datum
  rw [if_neg hdate, if_neg hdate]
  by_cases hts : dataType = TIMESTAMPOID
  · rw [if_pos hts, if_pos hts]
    exact renders_ts pg datum
  rw [if_neg hts, if_neg hts]
  by_cases htstz : dataType = TIMESTAMPTZOID
  · rw [if_pos htstz, if_pos htstz]
    exact renders_tsTz pg datum
  rw [if_neg htstz, if_neg htstz]
  by_cases hstr : dataType ∈ stringTypes
  · rw [if_pos hstr, if_pos hstr]
    exact renders_stringLiteral _
  rw [if_neg hstr, if_neg hstr, deparseGenericDatum]
  rcases datum.getCString with _ | str
  · exact renders_raise _
  · exact renders_stringLiteral str

/-- The text of a constant. -/
def constText (pg : Postgres) (constant : Const) : Option Text :=
  if constant.constisnull then some "NULL".toList
  else datumText pg constant.constvalue constant.consttype

theorem renders_const (pg : Postgres) (constant : Const) :
    Renders (deparseExprForTConst pg constant) (constText pg constant) := by
  rw [deparseExprForTConst, constText]
  cases constant.constisnull
  · exact renders_datum pg _ _
  · exact renders_append _

/-! ## Expressions -/

/-- The text of an operator expression, from the texts of its arguments. -/
def operatorText (op : FormPgOperator) (args : List (Option Text)) : Option Text :=
  match op.oprkind, args with
  | .left, [rhs] =>
    (followedBy (some (operatorName op))
      (followedBy (some [' ']) (followedBy rhs (some [')'])))).map
      fun t => '(' :: t
  | .both, [lhs, rhs] =>
    (followedBy lhs (followedBy (some [' ']) (followedBy (some (operatorName op))
      (followedBy (some [' ']) (followedBy rhs (some [')'])))))).map fun t => '(' :: t
  | _, _ => none

/-- What an operator expression that has a text looks like. -/
theorem operatorText_eq_some {op : FormPgOperator} {args : List (Option Text)} {text : Text}
    (h : operatorText op args = some text) :
    (op.oprkind = .left ∧ ∃ t, args = [some t] ∧
      text = '(' :: (operatorName op ++ ' ' :: (t ++ [')']))) ∨
    (op.oprkind = .both ∧ ∃ tl tr, args = [some tl, some tr] ∧
      text = '(' :: (tl ++ ' ' :: (operatorName op ++ ' ' :: (tr ++ [')'])))) := by
  unfold operatorText at h
  split at h
  · rename_i rhs hkind
    rcases rhs with _ | t
    · cases h
    · exact .inl ⟨hkind, t, rfl, (Option.some.inj h).symm⟩
  · rename_i lhs rhs hkind
    rcases lhs with _ | tl
    · cases h
    rcases rhs with _ | tr
    · cases h
    · exact .inr ⟨hkind, tl, tr, rfl, (Option.some.inj h).symm⟩
  · cases h

mutual

/-- The text of an expression of the kinds that are deparsed. -/
def exprText (context : DeparseContext) : Node → Option Text
  | .var v =>
    if v.varno ∈ context.scanrel.relids ∧ v.varlevelsup = 0 then
      columnText context.pg v.varno v.varattno (context.root.rtFetch v.varno)
        (decide (1 < context.scanrel.relids.length))
    else none
  | .const c => constText context.pg c
  | .opExpr opno _ _ args => operatorText (context.pg.pgOperator opno) (exprTexts context args)
  | _ => none

/-- The texts of the arguments. -/
def exprTexts (context : DeparseContext) : List Node → List (Option Text)
  | [] => []
  | arg :: rest => exprText context arg :: exprTexts context rest

end

/-- The planner relation is one base relation, on which the deparser and the
inspector work with the same relids. -/
structure DeparseContext.OnBaseRel (context : DeparseContext) (baserel : RelOptInfo) : Prop where
  simple : baserel.isSimpleRel = true
  foreignrel : context.foreignrel = baserel
  scanrel : context.scanrel = baserel

theorem selectContext_onBaseRel (pg : Postgres) (root : PlannerInfo) {baserel : RelOptInfo}
    (hsimple : baserel.isSimpleRel = true) (useFbQuery isolationUsesXactSnapshot : Bool) :
    (selectContext pg root baserel useFbQuery isolationUsesXactSnapshot).OnBaseRel baserel :=
  ⟨hsimple, rfl, rfl⟩

theorem DeparseContext.OnBaseRel.not_join {context : DeparseContext} {baserel : RelOptInfo}
    (h : context.OnBaseRel baserel) : context.foreignrel.isJoinRel = false := by
  have hs := h.simple
  rw [h.foreignrel]
  simp only [RelOptInfo.isSimpleRel, RelOptInfo.isJoinRel, decide_eq_true_eq,
    decide_eq_false_iff_not] at hs ⊢
  rcases hs with hs | hs <;> simp [hs]

theorem DeparseContext.OnBaseRel.relids {context : DeparseContext} {baserel : RelOptInfo}
    (h : context.OnBaseRel baserel) : context.scanrel.relids = baserel.inspectionRelids := by
  have hs := h.simple
  rw [h.scanrel, RelOptInfo.inspectionRelids, if_neg]
  simp only [RelOptInfo.isSimpleRel, RelOptInfo.isUpperRel, decide_eq_true_eq] at hs ⊢
  rcases hs with hs | hs <;> simp [hs]

theorem renders_var {context : DeparseContext} {baserel : RelOptInfo}
    (h : context.OnBaseRel baserel) (v : Var) :
    Renders (deparseExprForTVar context v) (exprText context (.var v)) := by
  have hsub : getSubqueryInfoFromVar context.foreignrel = pure () := by
    have hsimple : context.foreignrel.isSimpleRel = true := by rw [h.foreignrel, h.simple]
    rw [getSubqueryInfoFromVar, hsimple, h.not_join]
    rfl
  rw [deparseExprForTVar, exprText, hsub]
  by_cases hown : v.varno ∈ context.scanrel.relids ∧ v.varlevelsup = 0
  · simp only [hown, and_self, if_true]
    exact renders_columnRef ..
  · simp only [hown, if_false]
    exact renders_raise _

theorem renders_operator {pg : Postgres} {opno : Oid}
    (hop : (pg.pgOperator opno).oprnamespace = pgCatalogNamespace) {args : List (Deparse Unit)}
    {texts : List (Option Text)} (hargs : List.Forall₂ Renders args texts) :
    Renders (deparseExprForTOpExpr pg opno args) (operatorText (pg.pgOperator opno) texts) := by
  have hname : Renders (deparseOperatorName (pg.pgOperator opno))
      (some (operatorName (pg.pgOperator opno))) := by
    intro s _
    rw [deparseOperatorName, hop]
    rfl
  unfold deparseExprForTOpExpr operatorText
  rcases hkind : (pg.pgOperator opno).oprkind with _ | _
  · -- a prefix operator has one argument
    simp only [hkind]
    match args, texts, hargs with
    | [_], [_], .cons hr .nil =>
      exact renders_open (hname.seqClosing ((renders_append _).seqClosing
        (hr.seqClosing rendersClosing_close)))
    | [], [], .nil => exact renders_raise _
    | _ :: _ :: _, _ :: _ :: _, .cons _ (.cons _ _) => exact renders_raise _
  · -- an infix operator has two
    simp only [hkind]
    match args, texts, hargs with
    | [_, _], [_, _], .cons hl (.cons hr .nil) =>
      exact renders_open (hl.seqClosing ((renders_append _).seqClosing (hname.seqClosing
        ((renders_append _).seqClosing (hr.seqClosing rendersClosing_close)))))
    | [], [], .nil => exact renders_raise _
    | [_], [_], .cons _ .nil => exact renders_raise _
    | _ :: _ :: _ :: _, _ :: _ :: _ :: _, .cons _ (.cons _ (.cons _ _)) => exact renders_raise _

mutual

/-- **The deparser on accepted expressions**: it appends the expression's text,
or fails when the expression has none. -/
theorem renders_expr {context : DeparseContext} {baserel : RelOptInfo}
    (h : context.OnBaseRel baserel) :
    ∀ e : Node, Shippable context.pg baserel.inspectionRelids e → e.isList = false →
      Renders (deparseExpr context e) (exprText context e)
  | .var v, _, _ => by
    rw [deparseExpr]
    exact renders_var h v
  | .const c, _, _ => by
    rw [deparseExpr, exprText]
    exact renders_const context.pg c
  | .opExpr opno inputcollid opcollid args, hs, _ => by
    rw [Shippable] at hs
    rw [deparseExpr, exprText]
    exact renders_operator (context.pg.pgOperator_namespace opno hs.1.1)
      (renders_exprs h args hs.2.2.1)
  | .param _, hs, _ => by simp [Shippable] at hs
  | .funcExpr .., hs, _ => by simp [Shippable] at hs
  | .distinctExpr .., hs, _ => by simp [Shippable] at hs
  | .boolExpr _, hs, _ => by simp [Shippable] at hs
  | .nullTest _, hs, _ => by simp [Shippable] at hs
  | .arrayExpr .., hs, _ => by simp [Shippable] at hs
  | .list _, _, hl => by simp [Node.isList] at hl
  | .aggref .., hs, _ => by simp [Shippable] at hs
  | .other .., hs, _ => by simp [Shippable] at hs

theorem renders_exprs {context : DeparseContext} {baserel : RelOptInfo}
    (h : context.OnBaseRel baserel) :
    ∀ l : List Node, ShippableList context.pg baserel.inspectionRelids l →
      List.Forall₂ Renders (deparseExprs context l) (exprTexts context l)
  | [], _ => by
    rw [deparseExprs, exprTexts]
    exact .nil
  | e :: rest, hs => by
    rw [ShippableList] at hs
    rw [deparseExprs, exprTexts]
    refine .cons ?_ (renders_exprs h rest hs.2)
    by_cases hl : e.isList = true
    · cases e with
      | list elements =>
        rw [deparseExpr, exprText]
        exact renders_ereport _ _
        all_goals simp
      | _ => simp [Node.isList] at hl
    · exact renders_expr h e hs.1 (by simpa using hl)

end

/-- An accepted expression is rendered; a list has no text. -/
theorem renders_accepted {context : DeparseContext} {baserel : RelOptInfo}
    (h : context.OnBaseRel baserel) {e : Node}
    (hs : Shippable context.pg baserel.inspectionRelids e) :
    Renders (deparseExpr context e) (exprText context e) := by
  have hlist : ShippableList context.pg baserel.inspectionRelids [e] := by
    simpa [ShippableList] using hs
  have hrenders := renders_exprs h [e] hlist
  rw [deparseExprs, exprTexts] at hrenders
  cases hrenders with
  | cons he _ => exact he

/-! ## Conditions -/

/-- A condition in its parentheses. -/
def parenthesised (text : Text) : Text := '(' :: (text ++ [')'])

theorem renders_conditionsLoop {context : DeparseContext} {exprs : List Node} {texts : List Text}
    (h : List.Forall₂ (fun e t => Renders (deparseExpr context e) (some t)) exprs texts)
    (isFirst : Bool) :
    Renders (appendConditionsLoop context exprs isFirst)
      (some (separated " AND ".toList isFirst (texts.map parenthesised))) := by
  induction h generalizing isFirst with
  | nil =>
    rw [List.map_nil, separated_nil]
    exact renders_pure
  | @cons e t exprs texts he _ ih =>
    rw [List.map_cons, separated_cons]
    have hsep := renders_when (!isFirst) (renders_append " AND ".toList)
    have hcond := renders_open (he.seqClosing (rendersClosing_close.seq (ih false)))
    have h := hsep.seq hcond
    rw [appendConditionsLoop]
    cases isFirst <;> simpa [parenthesised] using h

/-- The text of `append_conditions`. -/
theorem renders_conditions {context : DeparseContext} {exprs : List Node} {texts : List Text}
    (h : List.Forall₂ (fun e t => Renders (deparseExpr context e) (some t)) exprs texts) :
    Renders (appendConditions context exprs)
      (some (List.intercalate " AND ".toList (texts.map parenthesised))) :=
  renders_conditionsLoop h true

/-! ## Target lists -/

/-- The attribute is fetched: it is not dropped, and it is used by itself or
through a whole-row reference. -/
def isFetched (attrsUsed : Bitmapset) (attr : FormPgAttribute) (i : Nat) : Bool :=
  !attr.attisdropped &&
    (bmsIsMember (0 - firstLowInvalidHeapAttributeNumber) attrsUsed ||
      bmsIsMember (i - firstLowInvalidHeapAttributeNumber) attrsUsed)

/-- The numbers of the fetched attributes, from number `i` on. -/
def fetchedFrom (attrsUsed : Bitmapset) : List FormPgAttribute → Nat → List Nat
  | [], _ => []
  | attr :: rest, i =>
    if isFetched attrsUsed attr i then i :: fetchedFrom attrsUsed rest (i + 1)
    else fetchedFrom attrsUsed rest (i + 1)

/-- The text of a column that exists. -/
def columnRef (pg : Postgres) (varno : Nat) (rel : Relation) (qualifyCol : Bool) (i : Nat) : Text :=
  (columnText pg varno i rel qualifyCol).getD []

theorem mem_fetchedFrom {attrsUsed : Bitmapset} {attrs : List FormPgAttribute} {i a : Nat} :
    a ∈ fetchedFrom attrsUsed attrs i ↔
      i ≤ a ∧ ∃ attr, attrs[a - i]? = some attr ∧ isFetched attrsUsed attr a = true := by
  induction attrs generalizing i with
  | nil => simp [fetchedFrom]
  | cons attr rest ih =>
    have hstep : a ∈ fetchedFrom attrsUsed (attr :: rest) i ↔
        (a = i ∧ isFetched attrsUsed attr i = true) ∨ a ∈ fetchedFrom attrsUsed rest (i + 1) := by
      rw [fetchedFrom]
      by_cases hf : isFetched attrsUsed attr i = true <;> simp [hf]
    rw [hstep, ih]
    constructor
    · rintro (⟨rfl, hf⟩ | ⟨hle, attr', hattr, hf⟩)
      · exact ⟨Nat.le_refl a, attr, by simp, hf⟩
      · refine ⟨by omega, attr', ?_, hf⟩
        rw [show a - i = (a - (i + 1)) + 1 by omega, List.getElem?_cons_succ]
        exact hattr
    · rintro ⟨hle, attr', hattr, hf⟩
      by_cases ha : a = i
      · subst ha
        rw [Nat.sub_self, List.getElem?_cons_zero] at hattr
        obtain rfl := Option.some.inj hattr
        exact .inl ⟨rfl, hf⟩
      · refine .inr ⟨by omega, attr', ?_, hf⟩
        rw [show a - i = (a - (i + 1)) + 1 by omega, List.getElem?_cons_succ] at hattr
        exact hattr

theorem length_fetchedFrom_le (attrsUsed : Bitmapset) (attrs : List FormPgAttribute) (i : Nat) :
    (fetchedFrom attrsUsed attrs i).length ≤ attrs.length := by
  induction attrs generalizing i with
  | nil => exact Nat.le_refl 0
  | cons attr rest ih =>
    rw [fetchedFrom]
    split_ifs
    · exact Nat.succ_le_succ (ih (i + 1))
    · exact Nat.le_succ_of_le (ih (i + 1))

/-- The loop over the attributes, from number `i` on. -/
theorem targetListLoop_run (pg : Postgres) (rtindex : Nat) (rel : Relation)
    (attrsUsed : Bitmapset) (qualifyCol : Bool) (attrs : List FormPgAttribute) (i : Nat)
    (hattrs : attrs = rel.tupdesc.drop (i - 1)) (hi : 0 < i) (first : Bool)
    (retrievedAttrs : List Int) (s : RemoteSqlInfo) (hs : 0 ≤ s.pdepth) :
    deparseTargetListLoop pg rtindex rel false attrsUsed qualifyCol attrs i first retrievedAttrs s =
      .ok (first && (fetchedFrom attrsUsed attrs i).isEmpty,
          retrievedAttrs ++ (fetchedFrom attrsUsed attrs i).map Int.ofNat)
        { s with
          buf := s.buf ++ separated ", ".toList first
            ((fetchedFrom attrsUsed attrs i).map (columnRef pg rtindex rel qualifyCol)) } := by
  -- `attrs` is what is left of the descriptor from `i` on
  induction attrs generalizing i first retrievedAttrs s with
  | nil => simp [deparseTargetListLoop, fetchedFrom, separated_nil]
  | cons attr rest ih =>
    have hrest : rest = rel.tupdesc.drop (i + 1 - 1) := by
      have h := congrArg List.tail hattrs
      rw [List.tail_cons, List.tail_drop] at h
      rw [h]
      congr 1
      omega
    have hattr : rel.tupdesc[i - 1]? = some attr := by
      have h := congrArg List.head? hattrs
      rw [List.head?_cons, List.head?_drop] at h
      exact h.symm
    rw [deparseTargetListLoop, fetchedFrom]
    by_cases hdrop : attr.attisdropped = true
    · simp only [hdrop, if_true, isFetched, Bool.not_true, Bool.false_and, Bool.false_eq_true,
        if_false]
      exact ih (i + 1) hrest (Nat.succ_pos i) first retrievedAttrs s hs
    · have hdrop' : attr.attisdropped = false := by simpa using hdrop
      by_cases hused : (bmsIsMember (0 - firstLowInvalidHeapAttributeNumber) attrsUsed ||
          bmsIsMember (i - firstLowInvalidHeapAttributeNumber) attrsUsed) = true
      · simp only [hdrop', hused, if_true, isFetched, Bool.not_false, Bool.true_and,
          Bool.false_eq_true, if_false]
        have hcol := columnText_of_attr pg rtindex qualifyCol hi hattr
        -- a separator stands before every column but the first one
        have hsep : Renders (deparseTargetSeparator first false)
            (some (if first then [] else ", ".toList)) := by
          cases first
          · exact renders_append _
          · exact renders_pure
        have hitem := hsep.seq (renders_columnRef pg rtindex i rel qualifyCol)
        rw [hcol, followedBy_some] at hitem
        rw [← Proc.bind_assoc_run, Proc.bind_of_ok (hitem s hs)]
        rw [ih (i + 1) hrest (Nat.succ_pos i) false _ { s with buf := s.buf ++ _ } hs]
        have href : columnRef pg rtindex rel qualifyCol i =
            (if qualifyCol then relQualifier rtindex else []) ++
              pg.quoteIdentifier (remoteColumnName attr) := by
          rw [columnRef, hcol]
          rfl
        rw [List.map_cons, List.map_cons, separated_cons, href]
        simp
      · simp only [hdrop', hused, isFetched, Bool.not_false, Bool.true_and,
          Bool.false_eq_true, if_false]
        exact ih (i + 1) hrest (Nat.succ_pos i) first retrievedAttrs s hs

/-- The numbers of the attributes that a target list fetches. -/
def fetchedAttrs (attrsUsed : Bitmapset) (rel : Relation) : List Nat :=
  fetchedFrom attrsUsed rel.tupdesc 1

/-- The system column `ctid` is used. -/
def usesCtid (attrsUsed : Bitmapset) : Bool :=
  bmsIsMember (selfItemPointerAttributeNumber - firstLowInvalidHeapAttributeNumber) attrsUsed

/-- The items of a target list. -/
def targetItems (pg : Postgres) (rtindex : Nat) (rel : Relation) (attrsUsed : Bitmapset) :
    List Text :=
  (fetchedAttrs attrsUsed rel).map (columnRef pg rtindex rel false) ++
    if usesCtid attrsUsed then ["ctid".toList] else []

/-- The `retrieved_attrs` of a target list. -/
def targetAttrs (rel : Relation) (attrsUsed : Bitmapset) : List Int :=
  (fetchedAttrs attrsUsed rel).map Int.ofNat ++
    if usesCtid attrsUsed then [selfItemPointerAttributeNumber] else []

/-- The text of a target list. -/
def targetText (pg : Postgres) (rtindex : Nat) (rel : Relation) (attrsUsed : Bitmapset) : Text :=
  if (targetAttrs rel attrsUsed).isEmpty then "NULL".toList
  else List.intercalate ", ".toList (targetItems pg rtindex rel attrsUsed)

/-- **The target list**: what `deparse_target_list` writes and returns for a
SELECT. -/
theorem deparseTargetList_run (pg : Postgres) (rtindex : Nat) (rel : Relation)
    (attrsUsed : Bitmapset) (s : RemoteSqlInfo) (hs : 0 ≤ s.pdepth) :
    deparseTargetList pg rtindex rel false attrsUsed false s =
      .ok (targetAttrs rel attrsUsed)
        { s with buf := s.buf ++ targetText pg rtindex rel attrsUsed } := by
  have hloop := targetListLoop_run pg rtindex rel attrsUsed false rel.tupdesc 1 (by simp)
    Nat.one_pos true [] s hs
  rw [deparseTargetList, Proc.bind_of_ok hloop]
  dsimp only
  by_cases hctid : usesCtid attrsUsed = true
  · rw [if_pos (by exact hctid)]
    rcases hf : fetchedFrom attrsUsed rel.tupdesc 1 with _ | ⟨i, nums⟩ <;>
      simp [targetText, targetAttrs, targetItems, fetchedAttrs, hf, hctid, separated,
        deparseTargetSeparator, appendStringInfoString, intercalate_cons, eachAfter]
  · rw [if_neg (by exact hctid)]
    rcases hf : fetchedFrom attrsUsed rel.tupdesc 1 with _ | ⟨i, nums⟩ <;>
      simp [targetText, targetAttrs, targetItems, fetchedAttrs, hf, hctid, separated,
        appendStringInfoString, intercalate_cons, eachAfter]

/-! ## The SELECT statement -/

/-- The text of `deparse_relation`. -/
def relationText (context : DeparseContext) (rel : Relation) (useFbQuery : Bool) : Text :=
  let flashbackClause :=
    if useFbQuery && !context.isolationUsesXactSnapshot then " as of tsn ?".toList else []
  let relName := context.pg.quoteIdentifier
    ((lastOption "table_name" rel.options).getD rel.relname)
  match lastOption "owner_name" rel.options with
  | none => relName ++ flashbackClause
  | some ownerName => context.pg.quoteIdentifier ownerName ++ '.' :: relName ++ flashbackClause

theorem renders_relation (context : DeparseContext) (rel : Relation) (useFbQuery : Bool) :
    Renders (deparseRelation context rel useFbQuery)
      (some (relationText context rel useFbQuery)) := by
  rw [deparseRelation, relationText]
  rcases lastOption "owner_name" rel.options with _ | ownerName
  · exact renders_append _
  · exact renders_append _

/-- The text of a WHERE clause; none without conditions. -/
def whereText : List Text → Text
  | [] => []
  | t :: rest =>
    " WHERE ".toList ++ List.intercalate " AND ".toList ((t :: rest).map parenthesised)

/-- The text of `deparse_from_expr`, from the texts of the conditions. -/
def fromText (context : DeparseContext) (conditions : List Text) : Text :=
  " FROM ".toList ++
    (relationText context (context.root.rtFetch context.scanrel.relid) context.useFbQuery ++
      ((if 1 < context.scanrel.relids.length then ' ' :: 'r' :: decimal context.scanrel.relid
        else []) ++ whereText conditions))

/-- The text of a SELECT statement, from the texts of the conditions. -/
def selectText (context : DeparseContext) (attrsUsed : Bitmapset) (conditions : List Text) : Text :=
  "SELECT ".toList ++ (targetText context.pg context.foreignrel.relid
    (context.root.rtFetch context.foreignrel.relid) attrsUsed ++ fromText context conditions)

theorem renders_where {context : DeparseContext} {exprs : List Node} {texts : List Text}
    (h : List.Forall₂ (fun e t => Renders (deparseExpr context e) (some t)) exprs texts) :
    Renders (Proc.when (!exprs.isEmpty) (deparseWhereExpr context exprs))
      (some (whereText texts)) := by
  have hwhere := (renders_append " WHERE ".toList).seq (renders_conditions h)
  cases h with
  | nil => exact renders_pure
  | cons he hrest => exact hwhere

theorem renders_from {context : DeparseContext} {exprs : List Node} {texts : List Text}
    (h : List.Forall₂ (fun e t => Renders (deparseExpr context e) (some t)) exprs texts) :
    Renders (deparseFromExpr context exprs) (some (fromText context texts)) := by
  have halias : Renders
      (Proc.when (1 < context.scanrel.relids.length)
        (appendStringInfoString (' ' :: 'r' :: decimal context.scanrel.relid)))
      (some (if 1 < context.scanrel.relids.length then ' ' :: 'r' :: decimal context.scanrel.relid
        else [])) := by
    by_cases hlen : 1 < context.scanrel.relids.length
    · simpa [hlen] using renders_append _
    · simpa [hlen] using renders_pure
  exact (renders_append " FROM ".toList).seq
    ((renders_relation context _ _).seq (halias.seq (renders_where h)))

/-- **The SELECT statement**: what `deparse_select_stmt_for_rel` writes and
returns. -/
theorem deparseSelectStmtForRel_run {context : DeparseContext} {baserel : RelOptInfo}
    (hbase : context.OnBaseRel baserel) (attrsUsed : Bitmapset) {exprs : List Node}
    {texts : List Text}
    (h : List.Forall₂ (fun e t => Renders (deparseExpr context e) (some t)) exprs texts) :
    deparseSelectStmtForRel context attrsUsed exprs RemoteSqlInfo.start =
      .ok (targetAttrs (context.root.rtFetch context.foreignrel.relid) attrsUsed)
        ⟨0, selectText context attrsUsed texts, []⟩ := by
  have hsimple : assertion context.foreignrel.isSimpleRel = pure () := by
    rw [hbase.foreignrel, hbase.simple]
    rfl
  have hselect := renders_append "SELECT ".toList RemoteSqlInfo.start (Int.le_refl 0)
  have htarget := deparseTargetList_run context.pg context.foreignrel.relid
    (context.root.rtFetch context.foreignrel.relid) attrsUsed ⟨0, [] ++ "SELECT ".toList, []⟩
    (Int.le_refl 0)
  have hfrom := fun buf => renders_from h ⟨0, buf, []⟩ (Int.le_refl 0)
  have hsanity : ∀ buf, remoteSqlCheckSanity ⟨0, buf, []⟩ = .ok () ⟨0, buf, []⟩ := fun _ => rfl
  rw [deparseSelectStmtForRel, hsimple, Proc.pure_bind_run, Proc.bind_of_ok hselect,
    RemoteSqlInfo.start, Proc.bind_of_ok htarget, Proc.bind_of_ok (hfrom _),
    Proc.bind_of_ok (hsanity _), Proc.pure_run, List.nil_append, List.append_assoc]
  rfl

end TiberoFdw
