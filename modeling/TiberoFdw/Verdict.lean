import Mathlib.Logic.Relation
import TiberoFdw.Conditions

/-!
# The verdict, node by node

`Shippable` follows the recursion of the inspector. Here it is read as a condition
on each node that the inspector comes to (`NodeOk`), which no longer mentions the
recursion; so siblings may stand in any order (`Reordered`). What happens on the
way is described by the assignments that the inspector makes to its context
(`Assigns`): none of them turns a refusal back, and none reaches the collation
state `needInspection`.
-/

namespace TiberoFdw

/-! ## The nodes -/

/-- The nodes that the inspector comes to: through the arguments of operators and the
elements of lists. -/
inductive Reaches : Node → Node → Prop where
  | here (e : Node) : Reaches e e
  | arg {opno inputcollid opcollid : Oid} {args : List Node} {arg node : Node}
      (harg : arg ∈ args) (h : Reaches arg node) :
      Reaches (.opExpr opno inputcollid opcollid args) node
  | element {elements : List Node} {element node : Node} (helement : element ∈ elements)
      (h : Reaches element node) : Reaches (.list elements) node

/-- What is asked of one node. -/
def NodeOk (pg : Postgres) (relids : List Nat) : Node → Prop
  | .var v =>
    (v.varno ∈ relids ∧ v.varlevelsup = 0 → AttributeOk v.varattno) ∧ CollationOk v.varcollid
  | .const c => CollationOk c.constcollid
  | .opExpr opno inputcollid opcollid args =>
    OperatorOk opno ∧ pg.containMutableFunctions (.opExpr opno inputcollid opcollid args) = false ∧
      CollationOk inputcollid ∧ CollationOk opcollid
  | .list _ => True
  | _ => False

section

variable {pg : Postgres} {relids : List Nat}

/-- An accepted node is as it should be itself. -/
theorem Shippable.nodeOk {e : Node} (h : Shippable pg relids e) : NodeOk pg relids e := by
  cases e with
  | var v => simpa only [Shippable, NodeOk] using h
  | const c => simpa only [Shippable, NodeOk] using h
  | opExpr opno inputcollid opcollid args =>
    rw [Shippable] at h
    exact ⟨h.1, h.2.1, h.2.2.2⟩
  | list elements => exact trivial
  | _ => simp [Shippable] at h

/-- Everything below an accepted node is as it should be. -/
theorem Shippable.reaches {e node : Node} (h : Shippable pg relids e) (hr : Reaches e node) :
    NodeOk pg relids node := by
  induction hr with
  | here e => exact h.nodeOk
  | arg harg _ ih =>
    rw [Shippable] at h
    exact ih (shippableList_iff.mp h.2.2.1 _ harg)
  | element helement _ ih =>
    rw [Shippable] at h
    exact ih (shippableList_iff.mp h _ helement)

mutual

/-- A tree is accepted when each of its nodes is as it should be. -/
theorem shippable_of_reaches :
    ∀ e : Node, (∀ node, Reaches e node → NodeOk pg relids node) → Shippable pg relids e
  | .var v, h => by
    have hnode := h _ (.here _)
    simpa only [Shippable, NodeOk] using hnode
  | .const c, h => by
    have hnode := h _ (.here _)
    simpa only [Shippable, NodeOk] using hnode
  | .opExpr opno inputcollid opcollid args, h => by
    obtain ⟨hop, hmutable, hcollations⟩ := h _ (.here _)
    rw [Shippable]
    refine ⟨hop, hmutable, ?_, hcollations⟩
    exact shippableList_of_reaches args fun arg harg node hr => h node (.arg harg hr)
  | .list elements, h => by
    rw [Shippable]
    exact shippableList_of_reaches elements fun element he node hr => h node (.element he hr)
  | .param _, h => (h _ (.here _)).elim
  | .funcExpr .., h => (h _ (.here _)).elim
  | .distinctExpr .., h => (h _ (.here _)).elim
  | .boolExpr _, h => (h _ (.here _)).elim
  | .nullTest _, h => (h _ (.here _)).elim
  | .arrayExpr .., h => (h _ (.here _)).elim
  | .aggref .., h => (h _ (.here _)).elim
  | .other .., h => (h _ (.here _)).elim

theorem shippableList_of_reaches :
    ∀ l : List Node, (∀ e ∈ l, ∀ node, Reaches e node → NodeOk pg relids node) →
      ShippableList pg relids l
  | [], _ => by simp only [ShippableList]
  | e :: rest, h => by
    rw [ShippableList]
    exact ⟨shippable_of_reaches e (h e (List.mem_cons_self ..)),
      shippableList_of_reaches rest fun e' he' => h e' (List.mem_cons_of_mem _ he')⟩

end

/-- **A tree is accepted exactly when each of its nodes is as it should be.** By induction on the
tree: the arguments of an accepted node are accepted. -/
theorem shippable_iff_reaches {e : Node} :
    Shippable pg relids e ↔ ∀ node, Reaches e node → NodeOk pg relids node :=
  ⟨fun h _ hr => h.reaches hr, shippable_of_reaches e⟩

end

/-! ## The order of siblings -/

mutual

/-- The same tree, with siblings in another order; the order does not matter to
`contain_mutable_functions`. -/
inductive Reordered (pg : Postgres) : Node → Node → Prop where
  | same (e : Node) : Reordered pg e e
  | opExpr {opno inputcollid opcollid : Oid} {args args' : List Node}
      (h : ReorderedList pg args args')
      (hmutable : pg.containMutableFunctions (.opExpr opno inputcollid opcollid args) =
        pg.containMutableFunctions (.opExpr opno inputcollid opcollid args')) :
      Reordered pg (.opExpr opno inputcollid opcollid args)
        (.opExpr opno inputcollid opcollid args')
  | list {elements elements' : List Node} (h : ReorderedList pg elements elements') :
      Reordered pg (.list elements) (.list elements')

/-- The same trees in any order, each of them reordered in turn. -/
inductive ReorderedList (pg : Postgres) : List Node → List Node → Prop where
  | nil : ReorderedList pg [] []
  | cons {e e' : Node} {l l' : List Node} (he : Reordered pg e e') (h : ReorderedList pg l l') :
      ReorderedList pg (e :: l) (e' :: l')
  | swap (e e' : Node) (l : List Node) : ReorderedList pg (e :: e' :: l) (e' :: e :: l)
  | trans {l l' l'' : List Node} (h : ReorderedList pg l l') (h' : ReorderedList pg l' l'') :
      ReorderedList pg l l''

end

section

variable {pg : Postgres} {relids : List Nat}

mutual

theorem Reordered.shippable_iff :
    ∀ {e e' : Node}, Reordered pg e e' → (Shippable pg relids e ↔ Shippable pg relids e')
  | _, _, .same e => Iff.rfl
  | _, _, .opExpr h hmutable => by rw [Shippable, Shippable, hmutable, h.shippable_iff]
  | _, _, .list h => by rw [Shippable, Shippable, h.shippable_iff]

theorem ReorderedList.shippable_iff :
    ∀ {l l' : List Node}, ReorderedList pg l l' →
      (ShippableList pg relids l ↔ ShippableList pg relids l')
  | _, _, .nil => Iff.rfl
  | _, _, .cons he h => by rw [ShippableList, ShippableList, he.shippable_iff, h.shippable_iff]
  | _, _, .swap e e' l => by
    simp only [ShippableList]
    exact and_left_comm
  | _, _, .trans h h' => h.shippable_iff.trans h'.shippable_iff

end

end

/-! ## The context -/

/-- The assignments that the inspector makes to its context. -/
inductive Assigns : InspectionContext → InspectionContext → Prop where
  | refuse (context : InspectionContext) : Assigns context { context with shippable := false }
  | compare (context : InspectionContext) (collation : Oid) :
      Assigns context (compareCollationWithCurrentState context collation)

/-- What the inspector does to its context, assignment by assignment. -/
abbrev AssignsAll : InspectionContext → InspectionContext → Prop := Relation.ReflTransGen Assigns

section

variable {context context' : InspectionContext}

/-- A refusal stays. -/
theorem Assigns.refused (h : Assigns context context') (hno : context.shippable = false) :
    context'.shippable = false := by
  cases h with
  | refuse => rfl
  | compare collation => exact InspectionContext.compare_refused hno collation

/-- Only a context that needs inspection is given a collation that needs it. -/
theorem Assigns.collationState (h : Assigns context context')
    (hstate : context.collationState ≠ .needInspection) :
    context'.collationState ≠ .needInspection := by
  cases h with
  | refuse => exact hstate
  | compare collation =>
    -- `needInspection` is deduced from itself only
    have hdeduced : deduceCollationStateFromCollation context collation ≠ .needInspection := by
      rw [deduceCollationStateFromCollation]
      simp only [hstate, false_and, if_false]
      split_ifs <;> simp
    rw [compareCollationWithCurrentState]
    dsimp only
    split_ifs <;> first | exact hdeduced | exact hstate | simp

theorem AssignsAll.refused (h : AssignsAll context context') (hno : context.shippable = false) :
    context'.shippable = false := by
  induction h with
  | refl => exact hno
  | tail _ hstep ih => exact hstep.refused ih

theorem AssignsAll.collationState (h : AssignsAll context context')
    (hstate : context.collationState ≠ .needInspection) :
    context'.collationState ≠ .needInspection := by
  induction h with
  | refl => exact hstate
  | tail _ hstep ih => exact hstep.collationState ih

theorem assignsAll_compare (collation : Oid) (h : AssignsAll context context') :
    AssignsAll context (compareCollationWithCurrentState context' collation) :=
  h.tail (.compare context' collation)

theorem assignsAll_refuse (h : AssignsAll context context') :
    AssignsAll context { context' with shippable := false } :=
  h.tail (.refuse context')

theorem inspectForTVar_assigns (v : Var) (context : InspectionContext) :
    AssignsAll context (inspectForTVar v context) := by
  rw [inspectForTVar]
  apply assignsAll_compare _
  split_ifs
  · exact assignsAll_refuse (assignsAll_refuse .refl)
  · exact assignsAll_refuse .refl
  · exact assignsAll_refuse .refl
  · exact .refl
  · exact .refl

theorem inspectForTFuncExprInternal_assigns (pg : Postgres) (info : FuncExprInfo)
    {inspectArgs : InspectionContext → InspectionContext} (context : InspectionContext)
    (hargs : AssignsAll context (inspectArgs context)) :
    AssignsAll context (inspectForTFuncExprInternal pg info inspectArgs context) := by
  rw [inspectForTFuncExprInternal]
  split_ifs
  · exact assignsAll_refuse .refl
  · exact assignsAll_refuse .refl
  · exact assignsAll_compare _ (assignsAll_compare _ hargs)

theorem inspectForTAggref_assigns (pg : Postgres) (expr : Node) (aggfnoid : Oid)
    (aggsplitSimple : Bool) (context : InspectionContext) :
    AssignsAll context (inspectForTAggref pg expr aggfnoid aggsplitSimple context) := by
  rw [inspectForTAggref]
  split_ifs <;> exact assignsAll_refuse .refl

mutual

/-- **The inspector's assignments**, whatever the tree. What each kind of assignment keeps is so
kept by the whole inspection. -/
theorem startInspection_assigns (pg : Postgres) :
    ∀ (e : Node) (context : InspectionContext), AssignsAll context (startInspection pg e context)
  | .var v, context => by
    rw [startInspection]
    split_ifs
    · exact .refl
    · exact inspectForTVar_assigns v context
  | .const c, context => by
    rw [startInspection]
    split_ifs
    · exact .refl
    · exact assignsAll_compare _ .refl
  | .param p, context => by
    rw [startInspection]
    split_ifs
    · exact .refl
    · refine assignsAll_refuse (assignsAll_compare _ ?_)
      split_ifs
      · exact assignsAll_refuse .refl
      · exact .refl
  | .funcExpr funcid inputcollid funccollid args, context => by
    rw [startInspection]
    split_ifs
    · exact .refl
    · exact assignsAll_refuse (inspectForTFuncExprInternal_assigns pg _ context
        (startInspectionOfList_assigns pg args context))
  | .opExpr opno inputcollid opcollid args, context => by
    rw [startInspection]
    split_ifs
    · exact .refl
    · exact inspectForTFuncExprInternal_assigns pg _ context
        (startInspectionOfList_assigns pg args context)
  | .distinctExpr opno inputcollid opcollid args, context => by
    rw [startInspection]
    split_ifs
    · exact .refl
    · exact assignsAll_refuse (inspectForTFuncExprInternal_assigns pg _ context
        (startInspectionOfList_assigns pg args context))
  | .boolExpr args, context => by
    rw [startInspection]
    split_ifs
    · exact .refl
    · exact assignsAll_refuse (assignsAll_compare _ (startInspectionOfList_assigns pg args context))
  | .nullTest arg, context => by
    rw [startInspection]
    split_ifs
    · exact .refl
    · exact assignsAll_refuse (assignsAll_compare _ (startInspection_assigns pg arg context))
  | .arrayExpr arrayCollid elements, context => by
    rw [startInspection]
    split_ifs
    · exact .refl
    · exact assignsAll_refuse
        (assignsAll_compare _ (startInspectionOfList_assigns pg elements context))
  | .list elements, context => by
    rw [startInspection]
    split_ifs
    · exact .refl
    · exact startInspectionOfList_assigns pg elements context
  | .aggref aggfnoid aggsplitSimple args, context => by
    rw [startInspection]
    split_ifs
    · exact .refl
    · exact assignsAll_refuse (inspectForTAggref_assigns pg _ aggfnoid aggsplitSimple context)
  | .other tag args, context => by
    rw [startInspection]
    split_ifs
    · exact .refl
    · exact assignsAll_refuse .refl

theorem startInspectionOfList_assigns (pg : Postgres) :
    ∀ (l : List Node) (context : InspectionContext),
      AssignsAll context (startInspectionOfList pg l context)
  | [], context => by
    rw [startInspectionOfList]
  | cell :: rest, context => by
    rw [startInspectionOfList]
    -- the context is handed from element to element
    exact (startInspection_assigns pg cell context).trans
      (startInspectionOfList_assigns pg rest (startInspection pg cell context))

end

end

/-! ## The verdict -/

/-- What is said of the verdict on an expression. -/
structure VerdictExact (pg : Postgres) (baserel : RelOptInfo) (e : Node) : Prop where
  iff : exprInspectShippability pg baserel e = true ↔
    ∀ node, Reaches e node → NodeOk pg baserel.inspectionRelids node
  /-- siblings may stand in any order -/
  reordered : ∀ e', Reordered pg e e' →
    exprInspectShippability pg baserel e' = exprInspectShippability pg baserel e
  /-- the inspection is a run of assignments -/
  run : AssignsAll (initializeInspectionContext baserel)
    (startInspection pg e (initializeInspectionContext baserel))
  /-- a refusal on the way is final -/
  refused : ∀ context context', AssignsAll (initializeInspectionContext baserel) context →
    AssignsAll context context' → context.shippable = false → context'.shippable = false
  /-- no context on the way needs inspection -/
  collationState : ∀ context, AssignsAll (initializeInspectionContext baserel) context →
    context.collationState ≠ .needInspection

/-- **The verdict is exact**: it is the conjunction of what is asked of the nodes. The inspector
passes one state through the tree, and neither the order of the nodes nor what it has assigned
before changes the result. -/
theorem exprInspectShippability_exact (pg : Postgres) (baserel : RelOptInfo) (e : Node) :
    VerdictExact pg baserel e where
  iff := exprInspectShippability_eq_true_iff.trans shippable_iff_reaches
  reordered e' h := by
    rw [Bool.eq_iff_iff, exprInspectShippability_eq_true_iff, exprInspectShippability_eq_true_iff]
    exact h.shippable_iff.symm
  run := startInspection_assigns pg e _
  refused _ _ _ h := h.refused
  collationState _ h := h.collationState (by simp [initializeInspectionContext])

end TiberoFdw
