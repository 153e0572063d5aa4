import TiberoFdw.Render

/-!
# What is shippable and can be deparsed

The inspector looks at node kinds, operators and collations; the deparser fails
on further things: the relation a column belongs to, the value of a constant,
the arity of an operator. `Deparsable` collects them, and
`deparsesCleanly_iff` says that among the shippable expressions they are
exactly what the deparser can fail on.
-/

namespace TiberoFdw

/-- The deparser returns, and no empty stub was visited. -/
def DeparsesCleanly (context : DeparseContext) (e : Node) : Prop :=
  ∀ s : RemoteSqlInfo, 0 ≤ s.pdepth →
    ∃ s', deparseExpr context e s = .ok () s' ∧ s'.visitedStubs = s.visitedStubs

/-! ## The conditions -/

/-- The value can be written as a constant of the type: dates and timestamps are
finite, and a value of a type without a branch of its own is a C string. -/
def DatumDeparsable (datum : Datum) (dataType : Oid) : Prop :=
  (dataType = DATEOID → dateNotFinite datum.toInt = false) ∧
  (dataType ∈ [TIMESTAMPOID, TIMESTAMPTZOID] → timestampNotFinite datum.toInt = false) ∧
  (dataType ∉ numericTypes ++ stringTypes ++ [DATEOID, TIMESTAMPOID, TIMESTAMPTZOID] →
    datum.getCString.isSome = true)

instance (datum : Datum) (dataType : Oid) : Decidable (DatumDeparsable datum dataType) :=
  inferInstanceAs (Decidable (_ ∧ _ ∧ _))

/-- The number of arguments of an operator. -/
def OprKind.arity : OprKind → Nat
  | .left => 1
  | .both => 2

mutual

/-- What the deparser needs of an expression: columns of the scanned relation,
constants that can be written, operators with as many arguments as they take. -/
def Deparsable (context : DeparseContext) : Node → Prop
  | .var v => v.varno ∈ context.scanrel.relids ∧ v.varlevelsup = 0
  | .const c => c.constisnull = true ∨ DatumDeparsable c.constvalue c.consttype
  | .opExpr opno _ _ args =>
    args.length = (context.pg.pgOperator opno).oprkind.arity ∧ DeparsableList context args
  | _ => False

/-- All arguments are deparsable. -/
def DeparsableList (context : DeparseContext) : List Node → Prop
  | [] => True
  | arg :: rest => Deparsable context arg ∧ DeparsableList context rest

end

mutual

/-- Every column of the scanned relation that is used is in the catalog. -/
def LookupsSucceed (context : DeparseContext) : Node → Prop
  | .var v =>
    v.varno ∈ context.scanrel.relids ∧ v.varlevelsup = 0 →
      v.varattno ≤ (context.root.rtFetch v.varno).tupdesc.length
  | .opExpr _ _ _ args => LookupsSucceedList context args
  | _ => True

/-- All lookups in the arguments succeed. -/
def LookupsSucceedList (context : DeparseContext) : List Node → Prop
  | [] => True
  | arg :: rest => LookupsSucceed context arg ∧ LookupsSucceedList context rest

end

/-! ## Which texts exist -/

theorem isSome_datumText {pg : Postgres} {datum : Datum} {dataType : Oid} :
    (datumText pg datum dataType).isSome = true ↔ DatumDeparsable datum dataType := by
  unfold datumText DatumDeparsable
  by_cases hnum : dataType ∈ numericTypes
  · have hdate : dataType ≠ DATEOID := by rintro rfl; exact absurd hnum (by decide)
    have hts : dataType ∉ [TIMESTAMPOID, TIMESTAMPTZOID] := by
      intro h
      rcases List.mem_pair.mp h with rfl | rfl <;> exact absurd hnum (by decide)
    simp [hnum, hdate, hts]
  have hd : DATEOID ≠ TIMESTAMPOID ∧ DATEOID ≠ TIMESTAMPTZOID := by decide
  have ht : TIMESTAMPTZOID ≠ TIMESTAMPOID := by decide
  by_cases hdate : dataType = DATEOID
  · subst hdate
    simp [hnum, hd]
  by_cases hts : dataType = TIMESTAMPOID
  · subst hts
    simp [hnum, hd.1.symm]
  by_cases htstz : dataType = TIMESTAMPTZOID
  · subst htstz
    simp [hnum, hd.2.symm, ht]
  by_cases hstr : dataType ∈ stringTypes
  · simp [hnum, hdate, hts, htstz, hstr]
  · simp [hnum, hdate, hts, htstz, hstr]

theorem isSome_constText {pg : Postgres} {c : Const} :
    (constText pg c).isSome = true ↔
      c.constisnull = true ∨ DatumDeparsable c.constvalue c.consttype := by
  rw [constText]
  cases c.constisnull
  · simp [isSome_datumText]
  · simp

theorem isSome_operatorText {op : FormPgOperator} {args : List (Option Text)} :
    (operatorText op args).isSome = true ↔
      args.length = op.oprkind.arity ∧ ∀ a ∈ args, a.isSome = true := by
  unfold operatorText
  rcases hkind : op.oprkind with _ | _
  · simp only [OprKind.arity]
    match args with
    | [] => simp
    | [rhs] => cases rhs <;> simp
    | _ :: _ :: _ => simp
  · simp only [OprKind.arity]
    match args with
    | [] => simp
    | [_] => simp
    | [lhs, rhs] => cases lhs <;> cases rhs <;> simp
    | _ :: _ :: _ :: _ => simp

/-- A column of the scanned relation that the inspector accepts has a text. -/
theorem isSome_columnText {pg : Postgres} {varno : Nat} {varattno : Int} {rel : Relation}
    {qualifyCol : Bool} (hattr : AttributeOk varattno)
    (hlen : varattno ≤ rel.tupdesc.length) :
    (columnText pg varno varattno rel qualifyCol).isSome = true := by
  rcases hattr with hpos | hctid
  · have hlt : varattno.toNat - 1 < rel.tupdesc.length := by omega
    obtain ⟨attr, hget⟩ : ∃ attr, rel.tupdesc[varattno.toNat - 1]? = some attr :=
      ⟨_, List.getElem?_eq_getElem hlt⟩
    have htext := columnText_of_attr pg varno qualifyCol (i := varattno.toNat) (by omega) hget
    rw [Int.toNat_of_nonneg (Int.le_of_lt hpos)] at htext
    rw [htext]
    rfl
  · rw [columnText, if_pos (.inl hctid), columnRefText]
    simp [hctid]

theorem length_exprTexts (context : DeparseContext) (l : List Node) :
    (exprTexts context l).length = l.length := by
  induction l with
  | nil => rfl
  | cons e rest ih => rw [exprTexts, List.length_cons, List.length_cons, ih]

/-- A list has no text, whatever its elements. -/
theorem exprText_list {context : DeparseContext} (elements : List Node) :
    exprText context (.list elements) = none := by
  rw [exprText] <;> simp

mutual

/-- **Which accepted expressions have a text**: the deparsable ones. The others make the deparser
fail, after the inspector has let them pass. -/
theorem isSome_exprText {context : DeparseContext} {baserel : RelOptInfo}
    (h : context.OnBaseRel baserel) :
    ∀ e : Node, Shippable context.pg baserel.inspectionRelids e → LookupsSucceed context e →
      ((exprText context e).isSome = true ↔ Deparsable context e)
  | .var v, hs, hl => by
    rw [Shippable, ← h.relids] at hs
    rw [LookupsSucceed] at hl
    rw [exprText, Deparsable]
    by_cases hown : v.varno ∈ context.scanrel.relids ∧ v.varlevelsup = 0
    · rw [if_pos hown]
      exact iff_of_true (isSome_columnText (hs.1 hown) (hl hown)) hown
    · rw [if_neg hown]
      exact iff_of_false (by simp) hown
  | .const c, _, _ => by
    rw [exprText, Deparsable]
    exact isSome_constText
  | .opExpr opno inputcollid opcollid args, hs, hl => by
    rw [Shippable] at hs
    rw [LookupsSucceed] at hl
    -- an operator is deparsed when the number of its arguments fits and they are
    rw [exprText, Deparsable, isSome_operatorText, length_exprTexts,
      isSome_exprTexts h args hs.2.2.1 hl]
  | .list elements, _, _ => by simp [exprText_list, Deparsable]
  | .param _, hs, _ => by simp [Shippable] at hs
  | .funcExpr .., hs, _ => by simp [Shippable] at hs
  | .distinctExpr .., hs, _ => by simp [Shippable] at hs
  | .boolExpr _, hs, _ => by simp [Shippable] at hs
  | .nullTest _, hs, _ => by simp [Shippable] at hs
  | .arrayExpr .., hs, _ => by simp [Shippable] at hs
  | .aggref .., hs, _ => by simp [Shippable] at hs
  | .other .., hs, _ => by simp [Shippable] at hs

theorem isSome_exprTexts {context : DeparseContext} {baserel : RelOptInfo}
    (h : context.OnBaseRel baserel) :
    ∀ l : List Node, ShippableList context.pg baserel.inspectionRelids l →
      LookupsSucceedList context l →
      ((∀ t ∈ exprTexts context l, t.isSome = true) ↔ DeparsableList context l)
  | [], _, _ => by simp [exprTexts, DeparsableList]
  | e :: rest, hs, hl => by
    rw [ShippableList] at hs
    rw [LookupsSucceedList] at hl
    rw [exprTexts, DeparsableList, List.forall_mem_cons, isSome_exprText h e hs.1 hl.1,
      isSome_exprTexts h rest hs.2 hl.2]

end

/-! ## The verdict and the deparser -/

/-- **Shippable and deparsable**: on an expression that is judged shippable, the
deparser completes exactly when the expression is `Deparsable`. Where the two judgements
differ, a query that could run locally fails in the planner. -/
theorem deparsesCleanly_iff {context : DeparseContext} {baserel : RelOptInfo}
    (h : context.OnBaseRel baserel) (e : Node)
    (hship : exprInspectShippability context.pg baserel e = true) (hroot : e.isList = false)
    (hlookup : LookupsSucceed context e) :
    DeparsesCleanly context e ↔ Deparsable context e := by
  have hs := exprInspectShippability_eq_true_iff.mp hship
  have hrenders := renders_expr h e hs hroot
  rw [← isSome_exprText h e hs hlookup]
  rcases htext : exprText context e with _ | text
  · rw [htext] at hrenders
    refine iff_of_false (fun hclean => ?_) (by simp)
    obtain ⟨err, s', hraise⟩ := hrenders RemoteSqlInfo.start (Int.le_refl 0)
    obtain ⟨s'', hok, -⟩ := hclean RemoteSqlInfo.start (Int.le_refl 0)
    rw [hraise] at hok
    cases hok
  · rw [htext] at hrenders
    exact iff_of_true (fun s hs => ⟨_, hrenders s hs, rfl⟩) rfl

/-- The scan of a table with one date column, `d`. -/
def dateScan : DeparseContext :=
  selectContext Postgres.small
    ⟨fun _ => ⟨"t".toList, [⟨"d".toList, DATEOID, -1, false, false, []⟩], []⟩⟩
    RelOptInfo.scanOfTable false false

theorem dateScan_onBaseRel : dateScan.OnBaseRel RelOptInfo.scanOfTable :=
  selectContext_onBaseRel _ _ rfl _ _

/-- The condition `d = date`. -/
def dateEquals (date : Int) : Node :=
  .opExpr 1093 invalidOid invalidOid
    [.var ⟨1, 1, DATEOID, invalidOid, 0⟩, .const ⟨DATEOID, invalidOid, .word date, false⟩]

/-- `d = 'infinity'` is judged shippable, and the deparser raises an error. -/
theorem infinity_not_deparsesCleanly :
    exprInspectShippability Postgres.small RelOptInfo.scanOfTable (dateEquals dateValNoEnd) =
        true ∧
      (dateEquals dateValNoEnd).isList = false ∧
      LookupsSucceed dateScan (dateEquals dateValNoEnd) ∧
      ¬ DeparsesCleanly dateScan (dateEquals dateValNoEnd) := by
  refine ⟨by decide, rfl, ?_, fun hclean => ?_⟩
  · simp [LookupsSucceed, LookupsSucceedList, dateEquals, dateScan, selectContext]
  · have hraise : (deparseExpr dateScan (dateEquals dateValNoEnd) RemoteSqlInfo.start).isOk =
        false := by rfl
    obtain ⟨s', hok, -⟩ := hclean RemoteSqlInfo.start (Int.le_refl 0)
    rw [hok] at hraise
    cases hraise

/-- `d = '2000-01-01'` can be deparsed. -/
theorem finite_deparsesCleanly : DeparsesCleanly dateScan (dateEquals 0) := by
  refine (deparsesCleanly_iff dateScan_onBaseRel (dateEquals 0) (by decide) rfl ?_).mpr ?_
  · simp [LookupsSucceed, LookupsSucceedList, dateEquals, dateScan, selectContext]
  · simp [Deparsable, DeparsableList, dateEquals, dateScan, selectContext, DatumDeparsable,
      RelOptInfo.scanOfTable, OprKind.arity, Postgres.small]
    decide

end TiberoFdw
