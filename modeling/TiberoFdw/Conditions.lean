import TiberoFdw.Postgres

/-!
# Which conditions are sent to Tibero

The inspector of `conditions.c`: a recursion over the expression tree that
threads a context holding the verdict so far (`shippable`), a three-valued
collation state and the collation that state stands for.

The context is only ever read through two facts, and both survive every step:
a verdict of `false` is final, and as long as the verdict is `true` the
collation state is `safeToShip` and the context is the one the inspection
started with. So the inspector decides a predicate of the tree alone,
`Shippable`, which is what the other modules work with.
-/

namespace TiberoFdw

/-! ## The inspection context -/

/-- `TbFDWCollationState`; the order of the constructors is the order of the
enumeration. -/
inductive TbFdwCollationState : Type where
  | safeToShip
  | needInspection
  | unsafeToShip
  deriving DecidableEq

/-- The value of the enumerator. -/
def TbFdwCollationState.toNat : TbFdwCollationState → Nat
  | safeToShip => 0
  | needInspection => 1
  | unsafeToShip => 2

/-- `InspectionContext`: the relation, and what the inspection has found so far. -/
structure InspectionContext where
  foreignrel : RelOptInfo
  relids : List Nat
  collation : Oid
  collationState : TbFdwCollationState
  shippable : Bool

/-- `initialize_inspection_context`. -/
def initializeInspectionContext (baserel : RelOptInfo) : InspectionContext where
  foreignrel := baserel
  relids := if baserel.isUpperRel then baserel.outerRelids else baserel.relids
  collation := invalidOid
  collationState := .safeToShip
  shippable := true

/-! ## Collations -/

/-- `deduce_collation_state_from_collation`: the default collation is safe to ship, as is none. -/
def deduceCollationStateFromCollation (context : InspectionContext) (collation : Oid) :
    TbFdwCollationState :=
  let compareCollations := context.collationState = .needInspection
  if !oidIsValid collation then .safeToShip
  else if compareCollations ∧ collation = context.collation then .needInspection
  else if collation = defaultCollationOid then .safeToShip
  else .unsafeToShip

/-- `check_for_need_to_override_collation`: the new state is the worse one. -/
def checkForNeedToOverrideCollation (state curState : TbFdwCollationState) : Bool :=
  decide (curState.toNat < state.toNat)

/-- `check_for_collation_conflict`: two collations that are both in need of inspection. -/
def checkForCollationConflict (context : InspectionContext) (state : TbFdwCollationState)
    (collation : Oid) : Bool :=
  decide (state = context.collationState ∧ state = .needInspection ∧ collation ≠ context.collation)

/-- `compare_collation_with_current_state`: the state of the whole expression after one of its
nodes. An unsafe collation decides the verdict. -/
def compareCollationWithCurrentState (context : InspectionContext) (collation : Oid) :
    InspectionContext :=
  let collationState := deduceCollationStateFromCollation context collation
  let context :=
    if checkForNeedToOverrideCollation collationState context.collationState then
      { context with collation := collation, collationState := collationState }
    else if checkForCollationConflict context collationState collation then
      if context.collation = defaultCollationOid then { context with collation := collation }
      else if collation ≠ defaultCollationOid then
        { context with collationState := .unsafeToShip }
      else context
    else context
  { context with
    shippable := context.shippable && decide (context.collationState ≠ .unsafeToShip) }

/-! ## The node kinds -/

/-- `inspect_for_T_Var`: of the own columns, the ordinary ones and `ctid` are shippable. -/
def inspectForTVar (v : Var) (context : InspectionContext) : InspectionContext :=
  let context :=
    if v.varno ∈ context.relids ∧ v.varlevelsup = 0 then
      -- system attributes are not shippable except for ROWID (ctid)
      let context :=
        if v.varattno < 0 ∧ v.varattno ≠ selfItemPointerAttributeNumber then
          { context with shippable := false }
        else context
      -- a whole-row reference is not shippable
      if v.varattno = 0 then { context with shippable := false } else context
    else context
  compareCollationWithCurrentState context v.varcollid

/-- `inspect_for_T_Const`: only the collation counts. -/
def inspectForTConst (c : Const) (context : InspectionContext) : InspectionContext :=
  compareCollationWithCurrentState context c.constcollid

/-- `inspect_for_T_Param`: not the result of a sub-select with several columns. -/
def inspectForTParam (p : Param) (context : InspectionContext) : InspectionContext :=
  let context := if p.multiexpr then { context with shippable := false } else context
  compareCollationWithCurrentState context p.paramcollid

/-- `FuncExprInfo`, without the arguments. -/
structure FuncExprInfo where
  funcOid : Oid
  inputCollid : Oid
  funcCollid : Oid
  expr : Node

/-- `check_oid_builtin`: objects that every installation has. -/
def checkOidBuiltin (oid : Oid) : Bool := decide (oid < firstGenbkiObjectId)

/-- The operator `%` on integer. -/
def TB_FDW_OID_MODULO_OP : Oid := 530

/-- `check_func_expr_compatible_with_tibero`: what is built in, two operators apart. The comment in
the source speaks of `~` and `%` on all types, and these two are on one type each. -/
def checkFuncExprCompatibleWithTibero (info : FuncExprInfo) : Bool :=
  if !checkOidBuiltin info.funcOid then false
  else if info.funcOid = OID_BPCHAR_REGEXEQ_OP then false
  else if info.funcOid = TB_FDW_OID_MODULO_OP then false
  else true

/-- `inspect_for_T_FuncExpr_internal`; `inspectArgs` is the inspection of the
argument list. -/
def inspectForTFuncExprInternal (pg : Postgres) (info : FuncExprInfo)
    (inspectArgs : InspectionContext → InspectionContext) (context : InspectionContext) :
    InspectionContext :=
  if !checkFuncExprCompatibleWithTibero info then { context with shippable := false }
  else if pg.containMutableFunctions info.expr then { context with shippable := false }
  else
    compareCollationWithCurrentState
      (compareCollationWithCurrentState (inspectArgs context) info.inputCollid) info.funcCollid

/-- `check_aggr_expr_compatible_with_tibero`. -/
def checkAggrExprCompatibleWithTibero (aggrOid : Oid) : Bool :=
  if !checkOidBuiltin aggrOid then false else false

/-- `inspect_for_T_Aggref`: every branch refuses. -/
def inspectForTAggref (pg : Postgres) (expr : Node) (aggfnoid : Oid) (aggsplitSimple : Bool)
    (context : InspectionContext) : InspectionContext :=
  if !context.foreignrel.isUpperRel then { context with shippable := false }
  else if !aggsplitSimple then { context with shippable := false }
  else if checkAggrExprCompatibleWithTibero aggfnoid then { context with shippable := false }
  else if pg.containMutableFunctions expr then { context with shippable := false }
  else { context with shippable := false }

mutual

/-- `start_inspection`, with the dispatch over the node kinds. The kinds marked
in the source as having no deparsing logic yet are inspected and then refused. -/
def startInspection (pg : Postgres) : Node → InspectionContext → InspectionContext
  | .var v, context => if !context.shippable then context else inspectForTVar v context
  | .const c, context => if !context.shippable then context else inspectForTConst c context
  | .param p, context =>
    if !context.shippable then context
    else { inspectForTParam p context with shippable := false }
  | .funcExpr funcid inputcollid funccollid args, context =>
    if !context.shippable then context
    else
      { inspectForTFuncExprInternal pg
          ⟨funcid, inputcollid, funccollid, .funcExpr funcid inputcollid funccollid args⟩
          (startInspectionOfList pg args) context with shippable := false }
  | .opExpr opno inputcollid opcollid args, context =>
    if !context.shippable then context
    else
      inspectForTFuncExprInternal pg
        ⟨opno, inputcollid, opcollid, .opExpr opno inputcollid opcollid args⟩
        (startInspectionOfList pg args) context
  | .distinctExpr opno inputcollid opcollid args, context =>
    if !context.shippable then context
    else
      { inspectForTFuncExprInternal pg
          ⟨opno, inputcollid, opcollid, .distinctExpr opno inputcollid opcollid args⟩
          (startInspectionOfList pg args) context with shippable := false }
  | .boolExpr args, context =>
    if !context.shippable then context
    else
      { compareCollationWithCurrentState (startInspectionOfList pg args context) invalidOid with
        shippable := false }
  | .nullTest arg, context =>
    if !context.shippable then context
    else
      { compareCollationWithCurrentState (startInspection pg arg context) invalidOid with
        shippable := false }
  | .arrayExpr arrayCollid elements, context =>
    if !context.shippable then context
    else
      { compareCollationWithCurrentState (startInspectionOfList pg elements context)
          arrayCollid with shippable := false }
  | .list elements, context =>
    if !context.shippable then context else startInspectionOfList pg elements context
  | .aggref aggfnoid aggsplitSimple args, context =>
    if !context.shippable then context
    else
      { inspectForTAggref pg (.aggref aggfnoid aggsplitSimple args) aggfnoid aggsplitSimple
          context with shippable := false }
  | .other _ _, context =>
    if !context.shippable then context else { context with shippable := false }

/-- `inspect_for_T_List`: the elements in order. -/
def startInspectionOfList (pg : Postgres) : List Node → InspectionContext → InspectionContext
  | [], context => context
  | cell :: rest, context => startInspectionOfList pg rest (startInspection pg cell context)

end

/-- `expr_inspect_shippability`. -/
def exprInspectShippability (pg : Postgres) (baserel : RelOptInfo) (expr : Node) : Bool :=
  (startInspection pg expr (initializeInspectionContext baserel)).shippable

/-- `classify_conditions`: the remote and the local conditions, each in the
order of the input. -/
def classifyConditions (pg : Postgres) (baserel : RelOptInfo) (inputConds : List RestrictInfo) :
    List RestrictInfo × List RestrictInfo :=
  inputConds.foldl
    (fun (remoteConds, localConds) ri =>
      if exprInspectShippability pg baserel ri.clause then (remoteConds ++ [ri], localConds)
      else (remoteConds, localConds ++ [ri]))
    ([], [])

/-! ## The verdict, without the context -/

/-- A collation that does not stop a node from being shipped. -/
def CollationOk (collation : Oid) : Prop := collation = invalidOid ∨ collation = defaultCollationOid

instance (collation : Oid) : Decidable (CollationOk collation) :=
  inferInstanceAs (Decidable (_ ∨ _))

/-- The attribute of a scanned relation is a user column or `ctid`. -/
def AttributeOk (varattno : Int) : Prop :=
  0 < varattno ∨ varattno = selfItemPointerAttributeNumber

instance (varattno : Int) : Decidable (AttributeOk varattno) :=
  inferInstanceAs (Decidable (_ ∨ _))

/-- A built-in operator or function that Tibero has under the same name, as far
as the wrapper knows. -/
def OperatorOk (opno : Oid) : Prop :=
  opno < firstGenbkiObjectId ∧ opno ≠ OID_BPCHAR_REGEXEQ_OP ∧ opno ≠ TB_FDW_OID_MODULO_OP

instance (opno : Oid) : Decidable (OperatorOk opno) := inferInstanceAs (Decidable (_ ∧ _ ∧ _))

mutual

/-- The expressions the inspector accepts, by recursion over the tree. -/
def Shippable (pg : Postgres) (relids : List Nat) : Node → Prop
  | .var v =>
    (v.varno ∈ relids ∧ v.varlevelsup = 0 → AttributeOk v.varattno) ∧ CollationOk v.varcollid
  | .const c => CollationOk c.constcollid
  | .opExpr opno inputcollid opcollid args =>
    OperatorOk opno ∧ pg.containMutableFunctions (.opExpr opno inputcollid opcollid args) = false ∧
      ShippableList pg relids args ∧ CollationOk inputcollid ∧ CollationOk opcollid
  | .list elements => ShippableList pg relids elements
  | _ => False

/-- Every element is accepted. -/
def ShippableList (pg : Postgres) (relids : List Nat) : List Node → Prop
  | [] => True
  | cell :: rest => Shippable pg relids cell ∧ ShippableList pg relids rest

end

/-- The relids the inspection of a relation works with. -/
def RelOptInfo.inspectionRelids (rel : RelOptInfo) : List Nat :=
  if rel.isUpperRel then rel.outerRelids else rel.relids

/-- A context in which nothing has been refused. -/
structure InspectionContext.Clean (context : InspectionContext) : Prop where
  shippable : context.shippable = true
  collationState : context.collationState = .safeToShip

namespace InspectionContext

variable {context : InspectionContext}

/-- In a clean context, comparing with an acceptable collation changes nothing. -/
theorem Clean.compare_ok (hc : context.Clean) {collation : Oid} (h : CollationOk collation) :
    compareCollationWithCurrentState context collation = context := by
  obtain ⟨foreignrel, relids, coll, state, ship⟩ := context
  obtain ⟨rfl, rfl⟩ := hc
  rcases h with rfl | rfl <;>
    simp [compareCollationWithCurrentState, deduceCollationStateFromCollation, oidIsValid,
      invalidOid, defaultCollationOid, checkForNeedToOverrideCollation, checkForCollationConflict]

/-- In a clean context, comparing with any other collation is a refusal. -/
theorem Clean.compare_not_ok (hc : context.Clean) {collation : Oid} (h : ¬ CollationOk collation) :
    (compareCollationWithCurrentState context collation).shippable = false := by
  obtain ⟨foreignrel, relids, coll, state, ship⟩ := context
  obtain ⟨rfl, rfl⟩ := hc
  obtain ⟨hinv, hdef⟩ := not_or.mp h
  simp [compareCollationWithCurrentState, deduceCollationStateFromCollation, oidIsValid, hinv, hdef,
    checkForNeedToOverrideCollation, TbFdwCollationState.toNat]

/-- No collation turns a refusal back. -/
theorem compare_refused (h : context.shippable = false) (collation : Oid) :
    (compareCollationWithCurrentState context collation).shippable = false := by
  simp only [compareCollationWithCurrentState, Bool.and_eq_false_iff]
  left
  split_ifs <;> exact h

end InspectionContext

open InspectionContext

/-- What the inspection of a node comes to: an acceptable node leaves a clean
context as it is, any other node is a refusal. -/
def Decides (p : Prop) (inspect : InspectionContext → InspectionContext) (relids : List Nat) :
    Prop :=
  ∀ context : InspectionContext, context.Clean → context.relids = relids →
    (p → inspect context = context) ∧ (¬ p → (inspect context).shippable = false)

theorem decides_collation (collation : Oid) (relids : List Nat) :
    Decides (CollationOk collation) (compareCollationWithCurrentState · collation) relids :=
  fun _ hc _ => ⟨hc.compare_ok, hc.compare_not_ok⟩

/-- One inspection after another decides the conjunction, provided the second
one respects a refusal of the first. -/
theorem Decides.and_then {p q : Prop} {f g : InspectionContext → InspectionContext}
    {relids : List Nat} (hf : Decides p f relids) (hg : Decides q g relids)
    (hrefuse : ∀ context, context.shippable = false → (g context).shippable = false) :
    Decides (p ∧ q) (fun context => g (f context)) relids := by
  intro context hc hr
  obtain ⟨hfy, hfn⟩ := hf context hc hr
  obtain ⟨hgy, hgn⟩ := hg context hc hr
  by_cases hp : p
  · have hfc : f context = context := hfy hp
    refine ⟨fun h => ?_, fun h => ?_⟩
    · simp only [hfc, hgy h.2]
    · have hq : ¬ q := fun hq => h ⟨hp, hq⟩
      simp only [hfc, hgn hq]
  · exact ⟨fun h => absurd h.1 hp, fun _ => hrefuse _ (hfn hp)⟩

theorem inspectForTVar_decides (v : Var) (relids : List Nat) :
    Decides ((v.varno ∈ relids ∧ v.varlevelsup = 0 → AttributeOk v.varattno) ∧
      CollationOk v.varcollid) (inspectForTVar v) relids := by
  -- first the attribute number, then the collation
  have hattribute : Decides (v.varno ∈ relids ∧ v.varlevelsup = 0 → AttributeOk v.varattno)
      (fun context =>
        if v.varno ∈ context.relids ∧ v.varlevelsup = 0 then
          let context :=
            if v.varattno < 0 ∧ v.varattno ≠ selfItemPointerAttributeNumber then
              { context with shippable := false }
            else context
          if v.varattno = 0 then { context with shippable := false } else context
        else context) relids := by
    intro context hc hr
    simp only [hr]
    by_cases hown : v.varno ∈ relids ∧ v.varlevelsup = 0
    · rw [if_pos hown]
      by_cases hok : AttributeOk v.varattno
      · refine ⟨fun _ => ?_, fun h => absurd (fun _ => hok) h⟩
        rcases hok with hpos | hctid
        · rw [if_neg (by omega), if_neg (by omega)]
        · rw [if_neg (by rw [hctid]; decide), if_neg (by simp [hctid])]
      · refine ⟨fun h => absurd (h hown) hok, fun _ => ?_⟩
        obtain ⟨hpos, hctid⟩ := not_or.mp hok
        by_cases hzero : v.varattno = 0
        · rw [if_pos hzero]
        · rw [if_neg hzero, if_pos ⟨by omega, hctid⟩]
    · -- columns of other relations pass
      rw [if_neg hown]
      exact ⟨fun _ => rfl, fun h => absurd (fun hown' => absurd hown' hown) h⟩
  exact hattribute.and_then (decides_collation v.varcollid relids)
    fun context h => compare_refused h _

theorem checkFuncExprCompatibleWithTibero_eq_true {info : FuncExprInfo} :
    checkFuncExprCompatibleWithTibero info = true ↔ OperatorOk info.funcOid := by
  simp only [checkFuncExprCompatibleWithTibero, checkOidBuiltin, OperatorOk]
  by_cases hlt : info.funcOid < firstGenbkiObjectId <;> simp [hlt]

theorem inspectForTFuncExprInternal_decides (pg : Postgres) (info : FuncExprInfo) {p : Prop}
    {inspectArgs : InspectionContext → InspectionContext} {relids : List Nat}
    (hargs : Decides p inspectArgs relids) :
    Decides
      (OperatorOk info.funcOid ∧ pg.containMutableFunctions info.expr = false ∧
        p ∧ CollationOk info.inputCollid ∧ CollationOk info.funcCollid)
      (inspectForTFuncExprInternal pg info inspectArgs) relids := by
  intro context hc hr
  have hrest := ((hargs.and_then (decides_collation info.inputCollid relids)
    fun _ h => compare_refused h _).and_then (decides_collation info.funcCollid relids)
    fun _ h => compare_refused h _) context hc hr
  unfold inspectForTFuncExprInternal
  by_cases hcompat : OperatorOk info.funcOid
  · simp only [checkFuncExprCompatibleWithTibero_eq_true.mpr hcompat, Bool.not_true,
      Bool.false_eq_true, if_false]
    by_cases hmut : pg.containMutableFunctions info.expr = true
    · simp [hmut]
    · have hmut' : pg.containMutableFunctions info.expr = false := by simpa using hmut
      simpa only [hmut', Bool.false_eq_true, if_false, hcompat, true_and, and_assoc] using hrest
  · have hrefused : checkFuncExprCompatibleWithTibero info = false := by
      rw [← Bool.not_eq_true, checkFuncExprCompatibleWithTibero_eq_true]
      exact hcompat
    simp only [hrefused, Bool.not_false, if_true]
    exact ⟨fun h => absurd h.1 hcompat, fun _ => trivial⟩

/-- Inspecting anything after a refusal changes nothing. -/
theorem startInspection_refused {pg : Postgres} (e : Node) {context : InspectionContext}
    (h : context.shippable = false) : startInspection pg e context = context := by
  cases e <;> simp [startInspection, h]

theorem startInspectionOfList_refused {pg : Postgres} (l : List Node)
    {context : InspectionContext} (h : context.shippable = false) :
    startInspectionOfList pg l context = context := by
  induction l generalizing context with
  | nil => rw [startInspectionOfList]
  | cons cell rest ih =>
    rw [startInspectionOfList, startInspection_refused cell h, ih h]

/-- A node kind that is refused whatever its inspection says. -/
theorem decides_false {inspect : InspectionContext → InspectionContext} {relids : List Nat}
    (h : ∀ context, context.shippable = true → (inspect context).shippable = false) :
    Decides False inspect relids :=
  fun context hc _ => ⟨False.elim, fun _ => h context hc.shippable⟩

mutual

/-- **The inspector decides `Shippable`**, node by node. A context that has not refused yet goes
through the nodes in order, and only the refusal is read in the end. -/
theorem startInspection_decides (pg : Postgres) (relids : List Nat) :
    ∀ e : Node, Decides (Shippable pg relids e) (startInspection pg e) relids
  | .var v => by
    intro context hc hr
    simp only [startInspection, Shippable, hc.shippable, Bool.not_true, Bool.false_eq_true,
      if_false]
    exact inspectForTVar_decides v relids context hc hr
  | .const c => by
    intro context hc hr
    simp only [startInspection, Shippable, hc.shippable, Bool.not_true, Bool.false_eq_true,
      if_false]
    exact decides_collation c.constcollid relids context hc hr
  | .opExpr opno inputcollid opcollid args => by
    intro context hc hr
    simp only [startInspection, Shippable, hc.shippable, Bool.not_true, Bool.false_eq_true,
      if_false]
    exact inspectForTFuncExprInternal_decides pg
      ⟨opno, inputcollid, opcollid, .opExpr opno inputcollid opcollid args⟩
      (startInspectionOfList_decides pg relids args) context hc hr
  | .list elements => by
    intro context hc hr
    simp only [startInspection, Shippable, hc.shippable, Bool.not_true, Bool.false_eq_true,
      if_false]
    exact startInspectionOfList_decides pg relids elements context hc hr
  -- the kinds from here on are refused before they are looked into
  | .param p => by
    simp only [Shippable]
    exact decides_false fun context h => by simp [startInspection, h]
  | .funcExpr funcid inputcollid funccollid args => by
    simp only [Shippable]
    exact decides_false fun context h => by simp [startInspection, h]
  | .distinctExpr opno inputcollid opcollid args => by
    simp only [Shippable]
    exact decides_false fun context h => by simp [startInspection, h]
  | .boolExpr args => by
    simp only [Shippable]
    exact decides_false fun context h => by simp [startInspection, h]
  | .nullTest arg => by
    simp only [Shippable]
    exact decides_false fun context h => by simp [startInspection, h]
  | .arrayExpr arrayCollid elements => by
    simp only [Shippable]
    exact decides_false fun context h => by simp [startInspection, h]
  | .aggref aggfnoid aggsplitSimple args => by
    simp only [Shippable]
    exact decides_false fun context h => by simp [startInspection, h]
  | .other tag args => by
    simp only [Shippable]
    exact decides_false fun context h => by simp [startInspection, h]

theorem startInspectionOfList_decides (pg : Postgres) (relids : List Nat) :
    ∀ l : List Node, Decides (ShippableList pg relids l) (startInspectionOfList pg l) relids
  | [] => by
    intro context _ _
    simp [startInspectionOfList, ShippableList]
  | cell :: rest => by
    have h := (startInspection_decides pg relids cell).and_then
      (startInspectionOfList_decides pg relids rest)
      fun context h => by rw [startInspectionOfList_refused rest h, h]
    intro context hc hr
    simp only [startInspectionOfList, ShippableList]
    exact h context hc hr

end

/-- The verdict of the inspector, as a predicate of the tree. -/
theorem exprInspectShippability_eq_true_iff {pg : Postgres} {baserel : RelOptInfo} {e : Node} :
    exprInspectShippability pg baserel e = true ↔ Shippable pg baserel.inspectionRelids e := by
  have hc : (initializeInspectionContext baserel).Clean := ⟨rfl, rfl⟩
  obtain ⟨hyes, hno⟩ := startInspection_decides pg baserel.inspectionRelids e _ hc rfl
  rw [exprInspectShippability]
  constructor
  · intro h
    by_contra hn
    rw [hno hn] at h
    cases h
  · intro h
    rw [hyes h]
    rfl

theorem shippableList_iff {pg : Postgres} {relids : List Nat} {l : List Node} :
    ShippableList pg relids l ↔ ∀ e ∈ l, Shippable pg relids e := by
  induction l with
  | nil => simp [ShippableList]
  | cons cell rest ih => simp [ShippableList, ih]

/-! ## The classification -/

/-- The loop of `classify_conditions` from any point on. -/
theorem classify_foldl (pg : Postgres) (baserel : RelOptInfo) (input remoteConds localConds :
    List RestrictInfo) :
    input.foldl
        (fun (remoteConds, localConds) ri =>
          if exprInspectShippability pg baserel ri.clause then (remoteConds ++ [ri], localConds)
          else (remoteConds, localConds ++ [ri]))
        (remoteConds, localConds) =
      (remoteConds ++ input.filter (exprInspectShippability pg baserel ·.clause),
        localConds ++ input.filter (!exprInspectShippability pg baserel ·.clause)) := by
  induction input generalizing remoteConds localConds with
  | nil => simp
  | cons ri rest ih =>
    rw [List.foldl_cons]
    by_cases hs : exprInspectShippability pg baserel ri.clause = true
    · simp only [hs, if_true]
      rw [ih]
      simp [hs]
    · simp only [hs, Bool.false_eq_true, if_false]
      rw [ih]
      simp [hs]

/-- The classification splits the input by the verdict and keeps its order. -/
theorem classifyConditions_eq (pg : Postgres) (baserel : RelOptInfo) (input : List RestrictInfo) :
    classifyConditions pg baserel input =
      (input.filter (exprInspectShippability pg baserel ·.clause),
        input.filter (!exprInspectShippability pg baserel ·.clause)) := by
  rw [classifyConditions, classify_foldl]
  simp

theorem mem_remoteConds {pg : Postgres} {baserel : RelOptInfo} {input : List RestrictInfo}
    {ri : RestrictInfo} :
    ri ∈ (classifyConditions pg baserel input).1 ↔
      ri ∈ input ∧ exprInspectShippability pg baserel ri.clause = true := by
  rw [classifyConditions_eq]
  exact List.mem_filter

theorem mem_localConds {pg : Postgres} {baserel : RelOptInfo} {input : List RestrictInfo}
    {ri : RestrictInfo} :
    ri ∈ (classifyConditions pg baserel input).2 ↔
      ri ∈ input ∧ exprInspectShippability pg baserel ri.clause = false := by
  rw [classifyConditions_eq]
  simp [List.mem_filter]

end TiberoFdw
