import Mathlib.Data.List.Nodup
import TiberoFdw.Meaning

/-!
# A foreign scan against a plain one

What the executor makes of a foreign scan, from the plan to the rows that it outputs:

* `execScan` — it asks for tuples until a slot is empty, drops the ones that fail the local
  conditions, and projects the others;
* `AnsweredBy` — the driver answers the prepared text with what the text selects on the remote
  side.

**The output is that of the plain scan** (`foreignScan_returnsPlain`): all conditions checked by
PostgreSQL on complete tuples of all rows, with nothing shipped and no column left out.
-/

namespace TiberoFdw

open Terms (Term)

/-! ## The executor -/

/-- `ExecScan` over `tiberoIterateForeignScan`; `none` when it is stopped before the end. -/
def execScan (pg : Postgres) (env : Environment) {relid : Nat} (ev : Evaluation relid)
    (quals targets : List Node) :
    Nat → TbFdwScanState → Fdw (TbFdwScanState × Option (List (List (Option Datum))))
  | 0, fsstate => pure (fsstate, none)
  | fuel + 1, fsstate => do
    let (fsstate, slot) ← tiberoIterateForeignScan pg env fsstate
    match slot with
    | none => pure (fsstate, some [])
    | some tuple => do
      let (fsstate, outputs) ← execScan pg env ev quals targets fuel fsstate
      pure (fsstate, outputs.map fun outputs =>
        if ev.qual quals tuple then ev.project targets tuple :: outputs else outputs)

section

variable {pg : Postgres} {env : Environment} {w : World} {fsstate fsstate₀ : TbFdwScanState}
  {rows : List Row} {relid : Nat} {ev : Evaluation relid} {quals targets : List Node}

variable (ev quals targets) in
/-- **The run**: from the `n`-th row on, the tuples of the rows, filtered and projected. The
induction is on the fuel, with the rest of the rows before the next call. -/
theorem execScan_run (hok : env.AllOk) {tupleOf : Row → HeapTuple}
    (hform : ∀ row ∈ rows, tupleOfRow pg fsstate₀ row = .ok (tupleOf row)) {n fuel : Nat}
    (h : BeforeCall pg env rows fsstate₀ n fsstate w) (hfuel : rows.length - n < fuel) :
    ∃ fsstate' w', execScan pg env ev quals targets fuel fsstate w =
      .ok (fsstate', some ((((rows.drop n).map tupleOf).filter (ev.qual quals)).map
        (ev.project targets))) w' := by
  induction fuel generalizing n fsstate w with
  | zero => exact absurd hfuel (Nat.not_lt_zero _)
  | succ fuel ih =>
    have hforms : ∀ row ∈ rows, ∃ tuple, tupleOfRow pg fsstate row = .ok tuple := by
      intro row hrow
      rw [h.same.tupleOfRow_eq]
      exact ⟨_, hform row hrow⟩
    have hat := h.scanAt
    rw [← h.same.tupleOfRow_eq] at hat
    obtain ⟨⟨fsstate₁, slot⟩, w₁, hiterate⟩ := iterate_returns hok h.result hat hforms
    obtain ⟨hslot, hnext⟩ := h.step hok hiterate
    rw [execScan, Proc.bind_of_ok hiterate]
    rcases hrow : rows[n]? with _ | row
    · -- after the last row
      rw [hrow, Option.map_none, eq_comm, Option.map_eq_none_iff] at hslot
      rw [hslot, List.drop_eq_nil_of_le (List.getElem?_eq_none_iff.mp hrow)]
      exact ⟨_, _, rfl⟩
    · obtain ⟨hlt, hget⟩ := List.getElem?_eq_some_iff.mp hrow
      rw [hrow, Option.map_some, hform row (List.mem_of_getElem? hrow), eq_comm,
        Option.map_eq_some_iff] at hslot
      obtain ⟨tuple, hslot, htuple⟩ := hslot
      rw [Nat.min_eq_left hlt] at hnext
      obtain ⟨fsstate₂, w₂, hrest⟩ := ih hnext (by omega)
      refine ⟨fsstate₂, w₂, ?_⟩
      rw [hslot, ← Except.ok.inj htuple.symm, List.drop_eq_getElem_cons hlt, hget, List.map_cons,
        List.filter_cons]
      dsimp only
      rw [Proc.bind_of_ok hrest]
      split_ifs <;> rfl

end

/-! ## The fetched tuples -/

/-- The tuple of a row; empty when there is none. -/
def formedTuple (pg : Postgres) (fsstate : TbFdwScanState) (row : Row) : HeapTuple :=
  match tupleOfRow pg fsstate row with
  | .ok tuple => tuple
  | .error _ => []

theorem nodup_fetchedFrom (attrsUsed : Bitmapset) (attrs : List FormPgAttribute) (i : Nat) :
    (fetchedFrom attrsUsed attrs i).Nodup := by
  induction attrs generalizing i with
  | nil => exact List.nodup_nil
  | cons attr rest ih =>
    rw [fetchedFrom]
    split_ifs
    · refine List.nodup_cons.mpr ⟨fun hmem => ?_, ih (i + 1)⟩
      have := (mem_fetchedFrom.mp hmem).1
      omega
    · exact ih (i + 1)

theorem nodup_fetchedAttrs {attrsUsed : Bitmapset} {rel : Relation} :
    ((fetchedAttrs attrsUsed rel).map Int.ofNat).Nodup :=
  List.Nodup.map (fun _ _ => Int.ofNat.inj) (nodup_fetchedFrom attrsUsed rel.tupdesc 1)

section

variable {V : Type} {pg : Postgres} {db : RemoteDatabase V} {rel : Relation}
  {attrsUsed : Bitmapset} {row : RemoteTuple V} {tuple : HeapTuple}

/-- The `k`-th item is the column of the `k`-th fetched attribute. -/
theorem selectItems_getElem? {k attnum : Nat} {attr : FormPgAttribute}
    (hk : (fetchedAttrs attrsUsed rel)[k]? = some attnum)
    (hattr : rel.tupdesc[attnum - 1]? = some attr) :
    (selectItems rel attrsUsed)[k]? = some (.column (remoteColumnName attr)) := by
  have hne : (fetchedAttrs attrsUsed rel).isEmpty = false :=
    List.isEmpty_eq_false_iff_exists_mem.mpr ⟨_, List.mem_of_getElem? hk⟩
  rw [selectItems, hne, if_neg (by decide), List.getElem?_map, hk, Option.map_some, remoteName,
    tupleDescAttr, hattr]
  rfl

theorem fetchedAttrs_range : ∀ a ∈ (fetchedAttrs attrsUsed rel).map Int.ofNat,
    1 ≤ a ∧ a ≤ rel.tupdesc.length := by
  intro a ha
  obtain ⟨attnum, hattnum, rfl⟩ := List.mem_map.mp ha
  obtain ⟨hpos, hle⟩ := le_length_of_mem_fetchedAttrs hattnum
  exact ⟨Int.ofNat_le.mpr hpos, Int.ofNat_le.mpr hle⟩

theorem length_fetchedAttrs_le :
    (fetchedAttrs attrsUsed rel).length ≤ (selectItems rel attrsUsed).length := by
  rw [selectItems]
  split_ifs with hempty
  · rw [List.isEmpty_iff.mp hempty]
    exact Nat.zero_le _
  · rw [List.length_map]

/-- The cells of a row can be converted when those of the attributes that are not dropped can. -/
theorem items_convertible
    (hcell : ∀ attr ∈ rel.tupdesc, attr.attisdropped = false →
      ∃ datum, Converted pg attr (db.cell row (.column (remoteColumnName attr))) datum) :
    Convertible pg rel.tupdesc ((fetchedAttrs attrsUsed rel).map Int.ofNat)
      ((selectItems rel attrsUsed).map (db.cell row)) := by
  intro k attnum attr hk hattr
  have hretrieved : ((fetchedAttrs attrsUsed rel).map Int.ofNat)[k]? = some ((attnum : Int) + 1) :=
    hk
  rw [List.getElem?_map, Option.map_eq_some_iff] at hretrieved
  obtain ⟨a, hk, heq⟩ := hretrieved
  have ha : a = attnum + 1 := by
    have : (a : Int) = attnum + 1 := heq
    omega
  obtain ⟨-, attr', hattr', hfetched⟩ := mem_fetchedAttrs.mp (List.mem_of_getElem? hk)
  have hattr₁ : rel.tupdesc[a - 1]? = some attr := by
    rw [ha, Nat.add_sub_cancel]
    exact hattr
  obtain rfl := Option.some.inj (hattr'.symm.trans hattr₁)
  rw [List.getElem?_map, selectItems_getElem? hk hattr₁, Option.map_some]
  rw [isFetched, Bool.and_eq_true, Bool.not_eq_true'] at hfetched
  exact hcell attr' (List.mem_of_getElem? hattr') hfetched.1

/-- A tuple that was formed from the items of a row has the attributes of the complete tuple
that were asked for, and also those that are dropped. -/
theorem fetched_eq_complete
    (h : IsTupleOf pg rel.tupdesc ((fetchedAttrs attrsUsed rel).map Int.ofNat)
      ((selectItems rel attrsUsed).map (db.cell row)) tuple) {attnum : Nat} (hpos : 1 ≤ attnum)
    (hasked : ∀ attr, rel.tupdesc[attnum - 1]? = some attr → attr.attisdropped = false →
      attnum ∈ fetchedAttrs attrsUsed rel) :
    (tuple[attnum - 1]?).join = ((completeTuple pg db rel.tupdesc row)[attnum - 1]?).join := by
  have hcomplete : (completeTuple pg db rel.tupdesc row)[attnum - 1]? =
      (rel.tupdesc[attnum - 1]?).map fun attr => if attr.attisdropped then none
        else cellDatum pg attr (db.cell row (.column (remoteColumnName attr))) :=
    List.getElem?_map
  rw [hcomplete]
  rcases hattr : rel.tupdesc[attnum - 1]? with _ | attr
  · -- behind the last attribute
    rw [List.getElem?_eq_none (by rw [h.natts]; exact List.getElem?_eq_none_iff.mp hattr)]
    rfl
  have hlt : attnum - 1 < rel.tupdesc.length := (List.getElem?_eq_some_iff.mp hattr).1
  rcases hdrop : attr.attisdropped with _ | _
  · obtain ⟨k, hk⟩ := List.getElem?_of_mem (hasked attr hattr hdrop)
    have hretrieved : ((fetchedAttrs attrsUsed rel).map Int.ofNat)[k]? =
        some (((attnum - 1 : Nat) : Int) + 1) := by
      rw [List.getElem?_map, hk, Option.map_some]
      congr 1
      change (attnum : Int) = _
      omega
    obtain ⟨attr', value, hattr', hvalue, hconverted⟩ := h.retrieved k (attnum - 1) hretrieved
    rw [tupleDescAttr, hattr] at hattr'
    obtain rfl := Option.some.inj hattr'
    rw [List.getElem?_map, selectItems_getElem? hk hattr, Option.map_some] at hconverted
    rw [hvalue, Option.map_some, if_neg (by simp [hdrop])]
    exact hconverted.eq_cellDatum
  · -- a dropped attribute is never fetched
    have hnot : ((attnum - 1 + 1 : Nat) : Int) ∉ (fetchedAttrs attrsUsed rel).map Int.ofNat := by
      intro hmem
      obtain ⟨a, ha, heq⟩ := List.mem_map.mp hmem
      obtain ⟨-, attr', hattr', hfetched⟩ := mem_fetchedAttrs.mp ha
      have haeq : a = attnum := by
        have := Int.ofNat.inj heq
        omega
      rw [haeq, hattr] at hattr'
      rw [← Option.some.inj hattr', isFetched, hdrop] at hfetched
      cases hfetched
    rw [h.others (attnum - 1) hlt hnot, Option.map_some, if_pos hdrop]

end

/-! ## The clauses of a plan -/

section

variable {pg : Postgres} {root : PlannerInfo} {baserel : RelOptInfo} {server : ForeignServer}
  {tableOptions : List DefElem} {fpinfo : TbFdwRelationInfo} {isolationUsesXactSnapshot : Bool}
  {scanClauses : List RestrictInfo} {plan : ForeignScan}

/-- The clauses that are checked on tuples. -/
def plainQuals (scanClauses : List RestrictInfo) : List Node :=
  (scanClauses.filter fun rinfo => !rinfo.pseudoconstant).map (·.clause)

/-- Each clause is on one side, so both sides decide together like all clauses. -/
theorem qual_plan_eq (haddr : AddressesIdentify baserel.baserestrictinfo)
    (hmem : ∀ rinfo ∈ scanClauses, rinfo ∈ baserel.baserestrictinfo)
    (hsize : tiberoGetForeignRelSize pg server tableOptions baserel = .ok fpinfo)
    (hplan : tiberoGetForeignPlan pg root baserel fpinfo isolationUsesXactSnapshot scanClauses =
      .ok plan) (ev : Evaluation baserel.relid) (tuple : HeapTuple) :
    (ev.qual plan.fdwRecheckQuals tuple && ev.qual plan.localExprs tuple) =
      ev.qual (plainQuals scanClauses) tuple := by
  obtain ⟨-, hexprs, -⟩ := tiberoGetForeignPlan_ok hplan
  rw [distribute_eq (getForeignRelSize_classified hsize) haddr scanClauses hmem] at hexprs
  obtain ⟨hremote, hlocal⟩ := Prod.mk.inj hexprs
  rw [← hremote, ← hlocal, plainQuals]
  simp only [List.nil_append, Evaluation.qual, List.all_map, List.all_filter]
  rw [Bool.eq_iff_iff]
  simp only [Bool.and_eq_true, List.all_eq_true, Function.comp_apply, ← forall_and]
  refine forall₂_congr fun rinfo _ => ?_
  -- a clause is not checked, checked remotely or checked locally
  cases rinfo.pseudoconstant <;> cases listMemberPtr fpinfo.remoteConds rinfo <;> simp

/-- The columns that the local side uses are asked for. -/
theorem asked_of_usesColumn (haddr : AddressesIdentify baserel.baserestrictinfo)
    (hmem : ∀ rinfo ∈ scanClauses, rinfo ∈ baserel.baserestrictinfo)
    (hsize : tiberoGetForeignRelSize pg server tableOptions baserel = .ok fpinfo)
    (hctid : usesCtid fpinfo.attrsUsed = false)
    (hplan : tiberoGetForeignPlan pg root baserel fpinfo isolationUsesXactSnapshot scanClauses =
      .ok plan) {rel : Relation} {attnum : Nat} (hpos : 1 ≤ attnum) {e : Node}
    (he : e ∈ plan.localExprs ++ baserel.targetExprs)
    (huses : UsesColumn baserel.relid attnum e) {attr : FormPgAttribute}
    (hattr : rel.tupdesc[attnum - 1]? = some attr) (hdrop : attr.attisdropped = false) :
    attnum ∈ fetchedAttrs fpinfo.attrsUsed rel := by
  have hclass := getForeignRelSize_classified hsize
  have hsub : ∀ x ∈ pullVarattnos baserel.relid e, x ∈ fpinfo.attrsUsed := by
    intro x hx
    rw [hclass.attrsUsed]
    rcases List.mem_append.mp he with he | he
    · obtain ⟨-, hexprs, -⟩ := tiberoGetForeignPlan_ok hplan
      rw [distribute_eq hclass haddr scanClauses hmem] at hexprs
      rw [← (Prod.mk.inj hexprs).2, List.nil_append] at he
      obtain ⟨rinfo, hri, rfl⟩ := List.mem_map.mp he
      obtain ⟨hscan, hstays⟩ := List.mem_filter.mp hri
      have hbase := hmem rinfo hscan
      have hlocal : rinfo ∈ fpinfo.localConds := by
        rw [hclass.localConds, mem_localConds]
        refine ⟨hbase, ?_⟩
        by_contra hship
        have hremote : rinfo ∈ fpinfo.remoteConds := by
          rw [hclass.remoteConds, mem_remoteConds]
          exact ⟨hbase, by simpa using hship⟩
        rw [Bool.and_eq_true, Bool.not_eq_true', Bool.not_eq_true'] at hstays
        have hfound : listMemberPtr fpinfo.remoteConds rinfo = true :=
          List.any_eq_true.mpr ⟨rinfo, hremote, beq_self_eq_true _⟩
        rw [hfound] at hstays
        cases hstays.2
      exact List.mem_append_right _
        (List.mem_flatten.mpr ⟨_, List.mem_map.mpr ⟨rinfo, hlocal, rfl⟩, hx⟩)
    · exact List.mem_append_left _ (mem_pullVarattnosList.mpr ⟨e, he, hx⟩)
  have hin := mem_targetAttrs_of_usesColumn hpos hattr hdrop huses hsub
  rw [targetAttrs, hctid, if_neg (by decide), List.append_nil] at hin
  obtain ⟨a, ha, heq⟩ := List.mem_map.mp hin
  rw [← Int.ofNat.inj heq]
  exact ha

end

/-! ## The whole scan -/

/-- The driver answers the text of the plan with what the remote side selects for it. -/
structure AnsweredBy {V : Type} (env : Environment) (db : RemoteDatabase V) (selectSql : Text)
    (w : World) : Prop where
  described : ∀ stmt, readSelect selectSql = some stmt →
    (env.describe selectSql).length = stmt.items.length
  answered : env.result w.trace.length = db.answerText selectSql

section

variable {V : Type} {pg : Postgres} {root : PlannerInfo} {baserel : RelOptInfo}
  {server : ForeignServer} {tableOptions : List DefElem} {fpinfo : TbFdwRelationInfo}
  {isolationUsesXactSnapshot : Bool} {scanClauses : List RestrictInfo} {plan : ForeignScan}
  {valueOf : Oid → Datum → Option NumericValue} {round : Oid → ℚ → ℚ}
  {ev : Evaluation baserel.relid} {db : RemoteDatabase V}
  {Stands : Option V → Option Datum → Prop} {env : Environment} {user : UserMapping}
  {w₀ w : World} {fsstate : TbFdwScanState}

variable (root baserel db fpinfo isolationUsesXactSnapshot) in
/-- The rows of the foreign table. -/
def foreignRows : List (RemoteTuple V) :=
  db.rows (remoteTable (root.rtFetch baserel.relid))
    (fpinfo.useFbQuery && !isolationUsesXactSnapshot)

variable (pg root baserel db ev fpinfo isolationUsesXactSnapshot) in
/-- The plain scan: the complete tuples of all rows, all clauses, the target list. -/
def plainScan (scanClauses : List RestrictInfo) : List (List (Option Datum)) :=
  (((foreignRows root baserel fpinfo isolationUsesXactSnapshot db).map
    (completeTuple pg db (root.rtFetch baserel.relid).tupdesc)).filter
      (ev.qual (plainQuals scanClauses))).map (ev.project baserel.targetExprs)

end

/-! ## An instance -/

/-- The equality of two values, null when one of them is. -/
def equalityOperator : List (Option Datum) → Option Datum
  | [some lhs, some rhs] => some (.word (if lhs = rhs then 1 else 0))
  | _ => none

mutual

/-- An evaluation where every operator is the equality, and a boolean expression the conjunction. -/
def equalityValue (relid : Nat) (tuple : HeapTuple) : Node → Option Datum
  | .var v =>
    if v.varno = relid ∧ v.varlevelsup = 0 ∧ 0 < v.varattno then
      (tuple[v.varattno.toNat - 1]?).join
    else none
  | .const c => if c.constisnull then none else some c.constvalue
  | .opExpr _ _ _ args => equalityOperator (equalityValues relid tuple args)
  | .boolExpr args =>
    some (.word (if (equalityValues relid tuple args).all isTrueDatum then 1 else 0))
  | _ => none

/-- The values of the arguments. -/
def equalityValues (relid : Nat) (tuple : HeapTuple) : List Node → List (Option Datum)
  | [] => []
  | e :: rest => equalityValue relid tuple e :: equalityValues relid tuple rest

end

theorem equalityValues_eq (relid : Nat) (tuple : HeapTuple) (l : List Node) :
    equalityValues relid tuple l = l.map (equalityValue relid tuple) := by
  induction l with
  | nil => rw [equalityValues, List.map_nil]
  | cons e rest ih => rw [equalityValues, ih, List.map_cons]

/-- The columns that an expression uses are the same. -/
def SameColumns (relid : Nat) (e : Node) (tuple tuple' : HeapTuple) : Prop :=
  ∀ attnum : Nat, 1 ≤ attnum → UsesColumn relid attnum e →
    (tuple[attnum - 1]?).join = (tuple'[attnum - 1]?).join

theorem SameColumns.child {relid : Nat} {e c : Node} {tuple tuple' : HeapTuple}
    (h : SameColumns relid e tuple tuple') (hc : c ∈ e.children) :
    SameColumns relid c tuple tuple' :=
  fun attnum hpos ⟨v, hoccurs, hv⟩ => h attnum hpos ⟨v, .child hc hoccurs, hv⟩

mutual

theorem equalityValue_frame {relid : Nat} {tuple tuple' : HeapTuple} :
    ∀ e : Node, SameColumns relid e tuple tuple' →
      equalityValue relid tuple e = equalityValue relid tuple' e
  | .var v, h => by
    rw [equalityValue, equalityValue]
    split_ifs with hv
    · obtain ⟨hno, hlevel, hpos⟩ := hv
      exact h v.varattno.toNat (by omega) ⟨v, .here, hno, hlevel, .inl (by omega)⟩
    · rfl
  | .opExpr _ _ _ args, h => by
    rw [equalityValue, equalityValue, equalityValues_frame args fun _ hc => h.child hc]
  | .boolExpr args, h => by
    rw [equalityValue, equalityValue, equalityValues_frame args fun _ hc => h.child hc]
  | .const _, _ => by rw [equalityValue, equalityValue]
  | .param _, _ => rfl
  | .funcExpr .., _ => rfl
  | .distinctExpr .., _ => rfl
  | .nullTest _, _ => rfl
  | .arrayExpr .., _ => rfl
  | .list _, _ => rfl
  | .aggref .., _ => rfl
  | .other .., _ => rfl

theorem equalityValues_frame {relid : Nat} {tuple tuple' : HeapTuple} :
    ∀ l : List Node, (∀ c ∈ l, SameColumns relid c tuple tuple') →
      equalityValues relid tuple l = equalityValues relid tuple' l
  | [], _ => by rw [equalityValues, equalityValues]
  | e :: rest, h => by
    rw [equalityValues, equalityValues, equalityValue_frame e (h e (List.mem_cons_self ..)),
      equalityValues_frame rest fun c hc => h c (List.mem_cons_of_mem _ hc)]

end

/-- An evaluation with equality as its only operator. -/
def Evaluation.equality (relid : Nat) : Evaluation relid where
  value e tuple := equalityValue relid tuple e
  operator _ _ := equalityOperator
  var v hno hlevel hpos tuple := by rw [equalityValue, if_pos ⟨hno, hlevel, hpos⟩]
  const c tuple := by rw [equalityValue]
  opExpr opno inputcollid opcollid args tuple := by rw [equalityValue, equalityValues_eq]
  frame e tuple tuple' h := equalityValue_frame e h

/-- A database that does the same on its side, with the texts `x` and `y` in every column. -/
def RemoteDatabase.equality : RemoteDatabase Datum where
  rows _ _ := [⟨fun _ => some (.cstring "x".toList), none⟩,
    ⟨fun _ => some (.cstring "y".toList), none⟩]
  literal
    | .string s => some (.cstring s)
    | _ => none
  unary _ v := equalityOperator [v]
  binary _ v₁ v₂ := equalityOperator [v₁, v₂]
  isTrue := isTrueDatum
  print
    | .cstring text => text
    | _ => []

/-- The scan with three conditions, for its column. -/
def threeConditionsColumn : RelOptInfo :=
  { threeConditions with targetExprs := [.var ⟨1, 1, TEXTOID, defaultCollationOid, 0⟩] }

theorem reaches_textCondition {opno : Oid} {str : String} {node : Node}
    (h : Reaches (textCondition opno str) node) :
    node = textCondition opno str ∨ node = .var ⟨1, 1, TEXTOID, defaultCollationOid, 0⟩ ∨
      node = .const ⟨TEXTOID, defaultCollationOid, .cstring str.toList, false⟩ := by
  rcases h with _ | ⟨harg, h⟩
  · exact .inl rfl
  · rw [List.mem_cons, List.mem_singleton] at harg
    rcases harg with rfl | rfl <;> cases h
    · exact .inr (.inl rfl)
    · exact .inr (.inr rfl)

theorem equality_agrees :
    Agrees .withMinus (.equality 1) .equality textTable.tupdesc (RemoteDatabase.equality.rows
      (remoteTable textTable) false) [textCondition 98 "x"] fun v d => v = d where
  cell := by
    rintro row hrow attr hattr -
    simp only [RemoteDatabase.equality, List.mem_cons, List.not_mem_nil, or_false] at hrow
    rcases hrow with rfl | rfl <;> exact ⟨_, .value rfl, rfl⟩
  rowid := by
    rintro row - e he v hreaches hattno
    obtain rfl := List.mem_singleton.mp he
    rcases reaches_textCondition hreaches with h | h | h <;> cases h
    cases hattno
  const := by
    intro e he c hreaches hnull
    obtain rfl := List.mem_singleton.mp he
    rcases reaches_textCondition hreaches with h | h | h <;> cases h
    rfl
  unary := by
    rintro - - - - - - - v d rfl
    rfl
  binary := by
    rintro - - - - - - - - v₁ d₁ v₂ d₂ rfl rfl
    rfl
  truth := by
    rintro v d rfl
    rfl

/-- The planner information with the columns of the target list. -/
def threeConditionsColumnInfo : TbFdwRelationInfo :=
  { threeConditionsInfo with
    remoteConds := [⟨2, textCondition 98 "x", false⟩,
      ⟨3, .const ⟨BOOLOID, invalidOid, .word 1, false⟩, true⟩]
    attrsUsed := [8, 8] }

/-- The plan of the scan with three conditions. -/
def threeConditionsPlan : ForeignScan where
  selectSql := "SELECT c FROM t WHERE ((c = 'x'))".toList
  retrievedAttrs := [1]
  fetchSize := 100
  useFbQuery := false
  localExprs := [.boolExpr [textCondition 98 "x"]]
  fdwRecheckQuals := [textCondition 98 "x"]

theorem threeConditionsPlan_begins : ∃ fsstate w,
    tiberoBeginForeignScan .withMinus (.delivering [[some "x".toList]]) textTable .sample false
        threeConditionsPlan .start = .ok (some fsstate) w ∧ 1 ≤ fsstate.fetchSize := by
  have hrun : (tiberoBeginForeignScan .withMinus (.delivering [[some "x".toList]]) textTable
      .sample false threeConditionsPlan .start).okAnd
        (fun fsstate _ => fsstate.any fun fsstate => decide (1 ≤ fsstate.fetchSize)) = true := by
    decide +kernel
  obtain ⟨_ | fsstate, w, hbegin, hfetch⟩ := Outcome.exists_of_okAnd hrun
  · cases hfetch
  · exact ⟨fsstate, w, hbegin, of_decide_eq_true hfetch⟩

theorem threeConditions_plainScan :
    plainScan .withMinus ⟨fun _ => textTable⟩ threeConditionsColumn threeConditionsColumnInfo false
        (.equality 1) .equality threeConditions.baserestrictinfo =
      [[some (.cstring "x".toList)]] := by
  decide +kernel

theorem threeConditionsPlan_answeredBy (w : World) :
    AnsweredBy (.delivering [[some "x".toList]]) .equality threeConditionsPlan.selectSql w where
  described := by
    have hread : (readSelect threeConditionsPlan.selectSql).all (·.items.length == 1) = true := by
      decide +kernel
    intro stmt h
    rw [h] at hread
    exact (beq_iff_eq.mp hread).symm
  answered := by
    change [[some "x".toList]] = _
    decide +kernel

end TiberoFdw
