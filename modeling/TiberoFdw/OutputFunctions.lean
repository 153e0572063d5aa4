import TiberoFdw.InsertRun

/-!
# The output functions of an INSERT

`tiberoBeginForeignModify` looks up an output function for every target attribute,
and `tiberoExecForeignInsert` counts its way through them. The two passes skip
different columns: the second one leaves out the generated columns and does not
count them, so that after a generated column every value is printed by the
function of a column before it (`printsOwn_iff`).
-/

namespace TiberoFdw

/-! ## The columns that are bound -/

/-- The columns that a row is bound for. -/
def insertedColumns (tupdesc : TupleDesc) : List (FormPgAttribute × Nat) :=
  (liveColumns tupdesc).filter fun column => !column.1.attgenerated

/-- The first columns of a list have types that a parameter can have; the loop
stops at the first one that has not. -/
def KnownTypes (columns : List (FormPgAttribute × Nat)) (count : Nat) : Prop :=
  ∀ column ∈ columns.take count, (tbTypeOf column.1.atttypid).isSome = true

/-- A non-null value that the call binds is printed by the function that was looked
up for the type of its own column. -/
def OwnBinding (pg : Postgres) (tupdesc : TupleDesc) (slot : TupleTableSlot) (call : SqlCall) :
    Prop :=
  ∀ hstmt a t text, call = .bindParameter hstmt a t (.text (some text)) →
    ∃ attr datum, tupleDescAttr tupdesc (a - 1) = some attr ∧ slotGetattr slot a = some datum ∧
      text = pg.outputFunctionCall (pg.pgType attr.atttypid).typoutput datum

/-- In any call after the beginning, every non-null value is printed by the function
of its own column: with any catalog, and whatever the driver returns. -/
def PrintsOwn (tupdesc : TupleDesc) (slot : TupleTableSlot) : Prop :=
  ∀ (pg : Postgres) (env : Environment) (rel : Relation) (user : UserMapping)
    (plan : FdwModifyPrivate) (w₀ w₁ w : World) (begun fmstate : TbFdwExecState),
    rel.tupdesc = tupdesc → plan.targetAttrs = insertTargets tupdesc →
    tiberoBeginForeignModify pg env rel user false plan w₀ = .ok (some begun) w₁ →
    fmstate.targetAttrs = begun.targetAttrs → fmstate.pFlinfo = begun.pFlinfo →
    ∀ i ∈ (tiberoExecForeignInsert pg env fmstate slot w).next.trace.drop w.trace.length,
      OwnBinding pg tupdesc slot i.call

/-- Where the second pass stands at a column that gets a non-null value, the first
one has looked up the function of a column of the same type. -/
def EntriesOwn (tupdesc : TupleDesc) (slot : TupleTableSlot) : Prop :=
  ∀ findex column, (insertedColumns tupdesc)[findex]? = some column →
    KnownTypes (insertedColumns tupdesc) (findex + 1) → slotGetattr slot column.2 ≠ none →
      ∃ other, (liveColumns tupdesc)[findex]? = some other ∧
        other.1.atttypid = column.1.atttypid

/-- No column follows a generated one. -/
def GeneratedLast (columns : List (FormPgAttribute × Nat)) : Prop :=
  columns.Pairwise fun column next =>
    column.1.attgenerated = true → next.1.attgenerated = true

instance (columns : List (FormPgAttribute × Nat)) : Decidable (GeneratedLast columns) :=
  inferInstanceAs (Decidable (columns.Pairwise _))

/-- The columns before the first generated one keep their positions. -/
theorem GeneratedLast.getElem?_filter {columns : List (FormPgAttribute × Nat)}
    (h : GeneratedLast columns) {i : Nat} {column : FormPgAttribute × Nat}
    (hget : (columns.filter fun c => !c.1.attgenerated)[i]? = some column) :
    columns[i]? = some column := by
  induction columns generalizing i with
  | nil => cases hget
  | cons first rest ih =>
    obtain ⟨hfirst, hrest⟩ := List.pairwise_cons.mp h
    rcases hgen : first.1.attgenerated with _ | _
    · rw [List.filter_cons_of_pos (by simp [hgen])] at hget
      rcases i with _ | i
      · exact hget
      · exact ih hrest (by simpa using hget)
    · -- nothing is left after a generated column
      have hnone : (first :: rest).filter (fun c => !c.1.attgenerated) = [] := by
        rw [List.filter_cons_of_neg (by simp [hgen]), List.filter_eq_nil_iff]
        intro c hc
        simp [hfirst c hc hgen]
      rw [hnone] at hget
      cases hget

/-- Generated columns at the end do no harm. -/
theorem entriesOwn_of_generatedLast {tupdesc : TupleDesc} (h : GeneratedLast (liveColumns tupdesc))
    (slot : TupleTableSlot) : EntriesOwn tupdesc slot := by
  rintro findex column hget - -
  exact ⟨column, h.getElem?_filter hget, rfl⟩

/-! ## The calls of the loop -/

theorem SqlCall.keeps_append (trace : List Issued) (call : SqlCall) : call.Keeps (trace <+: ·) :=
  fun _ _ h => h.trans (List.prefix_append ..)

theorem IssuedSince.of_prefix {n : Nat} {p : SqlCall → Prop} {trace trace' : List Issued}
    (h : IssuedSince n p trace') (hpre : trace <+: trace') (hn : n ≤ trace.length) :
    IssuedSince n p trace := by
  obtain ⟨rest, rfl⟩ := hpre
  refine ⟨hn, fun i hi => h.all i ?_⟩
  rw [List.drop_append_of_le_length hn]
  exact List.mem_append_left _ hi

section

variable {pg : Postgres} {env : Environment} {fmstate : TbFdwExecState} {slot : TupleTableSlot}
  {I : List Issued → Prop} {w w' : World}

/-- The call of the loop for a column. -/
def bindCall (pg : Postgres) (fmstate : TbFdwExecState) (slot : TupleTableSlot) (a findex : Nat)
    (t : Int) : SqlCall :=
  .bindParameter fmstate.tbStmt.hstmt a t (.text (boundValue pg fmstate.pFlinfo slot a findex))

/-- A type that no parameter can have ends the loop before the call. -/
theorem tbSqlBindParameter_unknown (env : Environment) (tbStmt : TbStatement) (paramNo : Nat)
    (source : ParamSource) (w : World) {type : Oid} (htype : tbTypeOf type = none) :
    ∃ e, tbSqlBindParameter env tbStmt paramNo type source w = .raise e w := by
  rw [tbSqlBindParameter, getTbTypeFromPgType, htype]
  exact ⟨_, rfl⟩

theorem tbSqlBindParameter_known {tbStmt : TbStatement} {paramNo : Nat} {type : Oid} {t : Int}
    {source : ParamSource} (htype : tbTypeOf type = some t) :
    tbSqlBindParameter env tbStmt paramNo type source =
      tbCall env tbStmt.conn (.bindParameter tbStmt.hstmt paramNo t source) := by
  rw [tbSqlBindParameter, getTbTypeFromPgType, htype]
  rfl

theorem KnownTypes.cons {column : FormPgAttribute × Nat} {rest : List (FormPgAttribute × Nat)}
    {count : Nat} (hcolumn : (tbTypeOf column.1.atttypid).isSome = true)
    (h : KnownTypes rest count) : KnownTypes (column :: rest) (count + 1) := by
  rintro c hc
  rw [List.take_succ_cons] at hc
  rcases List.mem_cons.mp hc with rfl | hc
  · exact hcolumn
  · exact h c hc

theorem KnownTypes.of_cons {column : FormPgAttribute × Nat} {rest : List (FormPgAttribute × Nat)}
    {count : Nat} (h : KnownTypes (column :: rest) (count + 1)) :
    (tbTypeOf column.1.atttypid).isSome = true ∧ KnownTypes rest count := by
  rw [KnownTypes, List.take_succ_cons, List.forall_mem_cons] at h
  exact h

/-- What the calls of the loop keep, the loop keeps. -/
theorem bindInsertParams_keeps (hclean : ∀ call : SqlCall, call.cleansUp = true → call.Keeps I)
    {columns : List (FormPgAttribute × Nat)}
    (hcolumns : ∀ c ∈ columns, 1 ≤ c.2 ∧ slot.ttsTupleDescriptor[c.2 - 1]? = some c.1)
    {pindex findex : Nat}
    (hbind : ∀ i column t, (columns.filter fun c => !c.1.attgenerated)[i]? = some column →
      KnownTypes (columns.filter fun c => !c.1.attgenerated) (i + 1) →
      (bindCall pg fmstate slot column.2 (findex + i) t).Keeps I) :
    Proc.Keeps (fun w => I w.trace)
      (bindInsertParams pg env fmstate slot (columns.map Prod.snd) pindex findex) := by
  induction columns generalizing pindex findex with
  | nil => exact .pure _
  | cons column rest ih =>
    obtain ⟨attr, a⟩ := column
    obtain ⟨hpos, hattr⟩ := hcolumns (attr, a) (List.mem_cons_self ..)
    have hrest : ∀ c ∈ rest, 1 ≤ c.2 ∧ slot.ttsTupleDescriptor[c.2 - 1]? = some c.1 :=
      fun c hc => hcolumns c (List.mem_cons_of_mem _ hc)
    have hnum : a - 1 + 1 = a := Nat.sub_add_cancel hpos
    rw [List.map_cons, bindInsertParams]
    simp only [tupleDescAttr, hattr, hnum]
    rcases hgen : attr.attgenerated with _ | _
    · -- the column is bound, when its type is known
      rw [if_neg (by decide)]
      rw [List.filter_cons_of_pos (by simp [hgen])] at hbind
      rcases htype : tbTypeOf attr.atttypid with _ | t
      · intro w h
        obtain ⟨e, hraise⟩ := tbSqlBindParameter_unknown env fmstate.tbStmt a _ w htype
        rw [Proc.bind_of_raise hraise]
        exact h
      · have hknown : (tbTypeOf attr.atttypid).isSome = true := by rw [htype]; rfl
        rw [tbSqlBindParameter_known htype]
        refine .bind (tbCall_keeps hclean ?_) fun _ => .bind (ih hrest ?_) fun _ => .pure _
        · exact hbind 0 (attr, a) t rfl (KnownTypes.cons hknown (by rintro c ⟨⟩))
        · intro i column t hget hfirst
          rw [Nat.add_right_comm, Nat.add_assoc]
          exact hbind (i + 1) column t (by rw [List.getElem?_cons_succ, hget])
            (KnownTypes.cons hknown hfirst)
    · -- the column is skipped
      rw [if_pos rfl]
      rw [List.filter_cons_of_neg (by simp [hgen])] at hbind
      exact ih hrest hbind

theorem bindInsertParams_appends {columns : List (FormPgAttribute × Nat)}
    (hcolumns : ∀ c ∈ columns, 1 ≤ c.2 ∧ slot.ttsTupleDescriptor[c.2 - 1]? = some c.1)
    {pindex findex : Nat} :
    w.trace <+: (bindInsertParams pg env fmstate slot (columns.map Prod.snd) pindex
      findex w).next.trace :=
  (bindInsertParams_keeps (fun call _ => call.keeps_append w.trace) hcolumns
    fun _ _ _ _ _ => SqlCall.keeps_append w.trace _).next (List.prefix_refl _)

/-- A driver that succeeds gets the call for every column up to the first unknown
type. -/
theorem bindInsertParams_binds (hok : env.AllOk) {n : Nat} {p : SqlCall → Prop}
    {columns : List (FormPgAttribute × Nat)}
    (hcolumns : ∀ c ∈ columns, 1 ≤ c.2 ∧ slot.ttsTupleDescriptor[c.2 - 1]? = some c.1)
    {pindex findex i : Nat} {column : FormPgAttribute × Nat} (hn : n ≤ w.trace.length)
    (hget : (columns.filter fun c => !c.1.attgenerated)[i]? = some column)
    (hknown : KnownTypes (columns.filter fun c => !c.1.attgenerated) (i + 1))
    (hall : IssuedSince n p (bindInsertParams pg env fmstate slot (columns.map Prod.snd) pindex
      findex w).next.trace) :
    ∃ t, p (bindCall pg fmstate slot column.2 (findex + i) t) := by
  -- the induction follows the loop over the columns, which has its own indices
  induction columns generalizing pindex findex i w with
  | nil => cases hget
  | cons first rest ih =>
    obtain ⟨attr, a⟩ := first
    obtain ⟨hpos, hattr⟩ := hcolumns (attr, a) (List.mem_cons_self ..)
    have hrest : ∀ c ∈ rest, 1 ≤ c.2 ∧ slot.ttsTupleDescriptor[c.2 - 1]? = some c.1 :=
      fun c hc => hcolumns c (List.mem_cons_of_mem _ hc)
    have hnum : a - 1 + 1 = a := Nat.sub_add_cancel hpos
    rw [List.map_cons, bindInsertParams] at hall
    simp only [tupleDescAttr, hattr, hnum] at hall
    rcases hgen : attr.attgenerated with _ | _
    · -- the column is bound
      rw [if_neg (by simp [hgen])] at hall
      rw [List.filter_cons_of_pos (by simp [hgen])] at hget hknown
      obtain ⟨htype, hknown⟩ := hknown.of_cons
      obtain ⟨t, htype⟩ := Option.isSome_iff_exists.mp htype
      have hcall : tbSqlBindParameter env fmstate.tbStmt a attr.atttypid
          (.text (boundValue pg fmstate.pFlinfo slot a findex)) w =
            .ok () (w.called env (bindCall pg fmstate slot a findex t)) := by
        rw [tbSqlBindParameter_known htype]
        exact tbCall_eq_ok.mpr ⟨hok _, rfl⟩
      rw [boundValue] at hcall
      rw [Proc.bind_of_ok hcall] at hall
      have hafter : IssuedSince n p (bindInsertParams pg env fmstate slot (rest.map Prod.snd)
          (pindex + 1) (findex + 1)
          (w.called env (bindCall pg fmstate slot a findex t))).next.trace := by
        rcases hloop : bindInsertParams pg env fmstate slot (rest.map Prod.snd) (pindex + 1)
          (findex + 1) (w.called env (bindCall pg fmstate slot a findex t)) with ⟨_, w₁⟩ | ⟨_, w₁⟩
        · rw [Proc.bind_of_ok hloop] at hall
          exact hall
        · rw [Proc.bind_of_raise hloop] at hall
          exact hall
      rcases i with _ | i
      · -- the call of this column is the first one
        obtain rfl : (attr, a) = column := by simpa using hget
        refine ⟨t, (hafter.of_prefix (bindInsertParams_appends hrest) ?_).all
          ⟨bindCall pg fmstate slot a findex t,
          w.nextRc env⟩ ?_⟩
        · rw [World.called_length]
          exact Nat.le_succ_of_le hn
        · change _ ∈ (w.trace ++ [_]).drop n
          rw [List.drop_append_of_le_length hn]
          exact List.mem_append_right _ (List.mem_singleton_self _)
      · obtain ⟨t', ht'⟩ := ih hrest (by rw [World.called_length]; exact Nat.le_succ_of_le hn)
          (by simpa using hget) hknown hafter
        refine ⟨t', ?_⟩
        rw [Nat.add_right_comm, Nat.add_assoc] at ht'
        exact ht'
    · -- the column is skipped
      rw [if_pos hgen] at hall
      rw [List.filter_cons_of_neg (by simp [hgen])] at hget hknown
      exact ih hrest hn hget hknown hall

theorem executeUnlessExecuted_keeps (hclean : ∀ call : SqlCall, call.cleansUp = true → call.Keeps I)
    {tbStmt : TbStatement} (hexecute : ∀ params, (SqlCall.execute tbStmt.hstmt params).Keeps I) :
    Proc.Keeps (fun w => I w.trace) (executeUnlessExecuted env tbStmt) := by
  rw [executeUnlessExecuted]
  split_ifs
  · exact .pure _
  · refine .bind (.read_bind fun w => issue_keeps (hexecute _)) fun rc => ?_
    exact .bind (checkReturn_keeps hclean _ _) fun _ => .pure _

/-! ## One call -/

theorem insertedColumns_of_slot {tupdesc : TupleDesc} (hslot : slot.ttsTupleDescriptor = tupdesc) :
    ∀ c ∈ liveColumns tupdesc, 1 ≤ c.2 ∧ slot.ttsTupleDescriptor[c.2 - 1]? = some c.1 := by
  rintro ⟨attr, a⟩ hc
  obtain ⟨hpos, hattr, -⟩ := mem_liveColumns hc
  rw [hslot]
  exact ⟨hpos, hattr⟩

/-- The entry of a column that stands at a position of the target attributes. -/
theorem flinfo_at {tupdesc : TupleDesc} {findex : Nat} {other : FormPgAttribute × Nat}
    (hother : (liveColumns tupdesc)[findex]? = some other) :
    ((insertOutputFunctions pg tupdesc (insertTargets tupdesc))[findex]?).getD 0 =
      (pg.pgType other.1.atttypid).typoutput := by
  rw [insertOutputFunctions_eq, List.getElem?_map, hother]
  rfl

/-- The position of a column that is bound is that of a target attribute. -/
theorem exists_liveColumn {tupdesc : TupleDesc} {findex : Nat} {column : FormPgAttribute × Nat}
    (hget : (insertedColumns tupdesc)[findex]? = some column) :
    ∃ other, (liveColumns tupdesc)[findex]? = some other := by
  have hlt := (List.getElem?_eq_some_iff.mp hget).1
  have hle : (insertedColumns tupdesc).length ≤ (liveColumns tupdesc).length :=
    List.length_filter_le ..
  exact ⟨_, List.getElem?_eq_getElem (Nat.lt_of_lt_of_le hlt hle)⟩

theorem tiberoBeginForeignModify_entries {rel : Relation} {user : UserMapping}
    {plan : FdwModifyPrivate}
    (h : tiberoBeginForeignModify pg env rel user false plan w = .ok (some fmstate) w') :
    fmstate.targetAttrs = plan.targetAttrs ∧
      fmstate.pFlinfo = insertOutputFunctions pg rel.tupdesc plan.targetAttrs := by
  rw [tiberoBeginForeignModify, if_neg (by decide), setSleepOnSigOn, Proc.modify_bind_run] at h
  obtain ⟨_, w₁, -, h⟩ := Proc.bind_eq_ok.mp h
  obtain ⟨tbStmt, w₂, -, h⟩ := Proc.bind_eq_ok.mp h
  obtain ⟨_, w₃, -, h⟩ := Proc.bind_eq_ok.mp h
  cases h
  exact ⟨rfl, rfl⟩

theorem tiberoBeginForeignModify_returns {rel : Relation} {user : UserMapping}
    {plan : FdwModifyPrivate} (hok : env.AllOk) (hvalid : env.OptionsValid pg) :
    ∃ fmstate w', tiberoBeginForeignModify pg env rel user false plan w =
      .ok (some fmstate) w' := by
  rcases hbegin : tiberoBeginForeignModify pg env rel user false plan w with ⟨r, w₁⟩ | ⟨e, w₁⟩
  · obtain ⟨fmstate, rfl, -⟩ := tiberoBeginForeignModify_ok hok hbegin
    exact ⟨fmstate, w₁, rfl⟩
  · exact absurd hvalid (tiberoBeginForeignModify_raisesOnly hok _ _ _ hbegin).2

variable (pg env fmstate slot w) in
/-- The calls of the loop are calls of the callback. -/
theorem tiberoExecForeignInsert_appends :
    (bindInsertParams pg env fmstate slot fmstate.targetAttrs 0 0
      { w with useSleepOnSig := true }).next.trace <+:
        (tiberoExecForeignInsert pg env fmstate slot w).next.trace := by
  rw [tiberoExecForeignInsert, setSleepOnSigOn, Proc.modify_bind_run]
  rcases hloop : bindInsertParams pg env fmstate slot fmstate.targetAttrs 0 0
      { w with useSleepOnSig := true } with ⟨accesses, w₁⟩ | ⟨e, w₁⟩
  · rw [Proc.bind_of_ok hloop]
    have hrest : Proc.Keeps (fun w => w₁.trace <+: w.trace)
        (executeUnlessExecuted env fmstate.tbStmt >>= fun tbStmt => setSleepOnSigOff >>= fun _ =>
          pure (({ fmstate with tbStmt }, accesses) : TbFdwExecState × List (InsertArray × Nat))) :=
      .bind (executeUnlessExecuted_keeps (fun call _ => call.keeps_append w₁.trace)
        fun _ => SqlCall.keeps_append w₁.trace _) fun _ =>
          .bind (.modify fun w h => h) fun _ => .pure _
    exact hrest.next (List.prefix_refl _)
  · rw [Proc.bind_of_raise hloop]
    exact List.prefix_refl _

theorem ownBinding_of_cleansUp {n : Nat} {tupdesc : TupleDesc} (call : SqlCall)
    (hcall : call.cleansUp = true) : call.Keeps (IssuedSince n (OwnBinding pg tupdesc slot)) := by
  apply IssuedSince.keeps
  rintro hstmt a t text rfl
  cases hcall

/-- What the call for a column binds. -/
theorem ownBinding_bindCall {tupdesc : TupleDesc} {findex : Nat}
    {column other : FormPgAttribute × Nat} {t : Int}
    (hflinfo : fmstate.pFlinfo = insertOutputFunctions pg tupdesc (insertTargets tupdesc))
    (hmem : column ∈ liveColumns tupdesc) (hother : (liveColumns tupdesc)[findex]? = some other) :
    OwnBinding pg tupdesc slot (bindCall pg fmstate slot column.2 findex t) ↔
      ∀ datum, slotGetattr slot column.2 = some datum →
        pg.outputFunctionCall (pg.pgType other.1.atttypid).typoutput datum =
          pg.outputFunctionCall (pg.pgType column.1.atttypid).typoutput datum := by
  obtain ⟨-, hattr, -⟩ := mem_liveColumns (show (column.1, column.2) ∈ _ from hmem)
  rw [bindCall, boundValue, hflinfo, flinfo_at hother]
  constructor
  · rintro h datum hdatum
    obtain ⟨attr, datum', hattr', hdatum', htext⟩ := h _ _ _ _ (by rw [hdatum]; rfl)
    rw [tupleDescAttr, hattr] at hattr'
    rw [hdatum] at hdatum'
    cases hattr'
    cases hdatum'
    exact htext
  · rintro h hstmt a t' text hcall
    rw [SqlCall.bindParameter.injEq, ParamSource.text.injEq] at hcall
    obtain ⟨-, rfl, -, hvalue⟩ := hcall
    obtain ⟨datum, hdatum, rfl⟩ := Option.map_eq_some_iff.mp hvalue
    exact ⟨column.1, datum, hattr, hdatum, h datum hdatum⟩

theorem insertedColumn_mem {tupdesc : TupleDesc} {findex : Nat} {column : FormPgAttribute × Nat}
    (hget : (insertedColumns tupdesc)[findex]? = some column) : column ∈ liveColumns tupdesc :=
  List.mem_of_mem_filter (List.mem_of_getElem? hget)

/-- One call, when the entries are their own. -/
theorem EntriesOwn.exec_keeps {tupdesc : TupleDesc} (hslot : slot.ttsTupleDescriptor = tupdesc)
    (htargets : fmstate.targetAttrs = insertTargets tupdesc)
    (hflinfo : fmstate.pFlinfo = insertOutputFunctions pg tupdesc (insertTargets tupdesc))
    (h : EntriesOwn tupdesc slot) (n : Nat) :
    Proc.Keeps (fun w => IssuedSince n (OwnBinding pg tupdesc slot) w.trace)
      (tiberoExecForeignInsert pg env fmstate slot) := by
  refine .bind (.modify fun w h => h) fun _ => .bind ?_ fun _ => .bind ?_ fun _ => .bind
    (.modify fun w h => h) fun _ => .pure _
  · -- the loop
    rw [htargets, insertTargets_eq]
    apply bindInsertParams_keeps ownBinding_of_cleansUp (insertedColumns_of_slot hslot)
    intro findex column t hget hknown
    apply IssuedSince.keeps
    obtain ⟨other, hother⟩ := exists_liveColumn hget
    rw [Nat.zero_add]
    apply (ownBinding_bindCall hflinfo (insertedColumn_mem hget) hother).mpr
    intro datum hdatum
    obtain ⟨other', hother', htype⟩ := h findex column hget hknown (by rw [hdatum]; rintro ⟨⟩)
    rw [hother] at hother'
    cases hother'
    rw [htype]
  · -- the execution
    refine executeUnlessExecuted_keeps ownBinding_of_cleansUp fun params => IssuedSince.keeps ?_
    rintro _ _ _ _ ⟨⟩

/-- When the entries are their own, so is every value that is bound. -/
theorem EntriesOwn.printsOwn {tupdesc : TupleDesc} (hslot : slot.ttsTupleDescriptor = tupdesc)
    (h : EntriesOwn tupdesc slot) : PrintsOwn tupdesc slot := by
  rintro pg env rel user plan w₀ w₁ w begun fmstate hrel htargets hbegin hsame hsame'
  obtain ⟨hplan, hflinfo⟩ := tiberoBeginForeignModify_entries hbegin
  rw [← hsame, htargets] at hplan
  rw [← hsame', hrel, htargets] at hflinfo
  have hkeeps : Proc.Keeps
      (fun w' => IssuedSince w.trace.length (OwnBinding pg tupdesc slot) w'.trace)
      (tiberoExecForeignInsert pg env fmstate slot) :=
    h.exec_keeps hslot hplan hflinfo w.trace.length
  exact (hkeeps.next (IssuedSince.now _ w.trace)).all

end

/-- A catalog in which a value shows the type whose function has printed it. -/
def Postgres.tagging : Postgres :=
  { Postgres.small with
    pgType := fun oid => ⟨oid, oid⟩
    outputFunctionCall := fun functionId _ => List.replicate functionId 'x' }

section

variable {tupdesc : TupleDesc} {slot : TupleTableSlot}

/-- When every value that is bound is its own, so are the entries: a driver that
succeeds gets all the values, and a catalog can tell the functions apart. -/
theorem PrintsOwn.entriesOwn (hslot : slot.ttsTupleDescriptor = tupdesc)
    (h : PrintsOwn tupdesc slot) : EntriesOwn tupdesc slot := by
  rintro findex column hget hknown hvalue
  obtain ⟨other, hother⟩ := exists_liveColumn hget
  obtain ⟨datum, hdatum⟩ := Option.ne_none_iff_exists'.mp hvalue
  refine ⟨other, hother, ?_⟩
  -- a modification of the table
  have hvalid : Environment.succeeding.OptionsValid .tagging := by rintro n serverid d ⟨⟩
  obtain ⟨fmstate, w₁, hbegin⟩ : ∃ fmstate w₁, tiberoBeginForeignModify .tagging .succeeding
      ⟨[], tupdesc, []⟩ .sample false ⟨[], insertTargets tupdesc⟩ .start =
        .ok (some fmstate) w₁ :=
    tiberoBeginForeignModify_returns Environment.succeeding_allOk hvalid
  obtain ⟨hplan, hflinfo⟩ := tiberoBeginForeignModify_entries hbegin
  have hloop : IssuedSince w₁.trace.length (OwnBinding .tagging tupdesc slot)
      (bindInsertParams .tagging .succeeding fmstate slot ((liveColumns tupdesc).map Prod.snd) 0 0
        { w₁ with useSleepOnSig := true }).next.trace := by
    have hexec := h .tagging .succeeding ⟨[], tupdesc, []⟩ .sample ⟨[], insertTargets tupdesc⟩
      .start w₁ w₁ fmstate fmstate rfl rfl hbegin rfl rfl
    have hloop : ({ w₁ with useSleepOnSig := true } : World).trace <+:
        (bindInsertParams .tagging .succeeding fmstate slot
        ((liveColumns tupdesc).map Prod.snd) 0 0 { w₁ with useSleepOnSig := true }).next.trace :=
      bindInsertParams_appends (insertedColumns_of_slot hslot)
    have happends := tiberoExecForeignInsert_appends .tagging .succeeding fmstate slot w₁
    rw [show fmstate.targetAttrs = insertTargets tupdesc from hplan, insertTargets_eq] at happends
    exact IssuedSince.of_prefix ⟨(hloop.trans happends).length_le, hexec⟩ happends hloop.length_le
  obtain ⟨t, hown⟩ := bindInsertParams_binds (w := { w₁ with useSleepOnSig := true })
    Environment.succeeding_allOk (insertedColumns_of_slot hslot) (Nat.le_refl _) hget hknown hloop
  rw [Nat.zero_add] at hown
  have htext := (ownBinding_bindCall hflinfo (insertedColumn_mem hget) hother).mp hown datum hdatum
  simpa [Postgres.tagging] using htext

/-- **Output functions**: the values of a row are printed by the functions of their
own columns exactly when the counter finds, for each of them, a column of the same
type. The functions were collected for the columns that are not dropped, and the loop over the
row counts the generated ones out. -/
theorem printsOwn_iff (hslot : slot.ttsTupleDescriptor = tupdesc) :
    PrintsOwn tupdesc slot ↔ EntriesOwn tupdesc slot :=
  ⟨PrintsOwn.entriesOwn hslot, EntriesOwn.printsOwn hslot⟩

end

/-- A number, a dropped column, a text, and a generated number at the end. -/
def generatedLast : TupleDesc :=
  numberTextTable.tupdesc ++ [⟨"g".toList, INT4OID, -1, false, true, []⟩]

/-- A row of it. -/
def generatedLastSlot : TupleTableSlot :=
  ⟨generatedLast, [some (.word 7), none, some (.cstring "a".toList), some (.word 8)]⟩

/-- The number and the text are printed by functions of their own. -/
theorem generatedLast_printsOwn : PrintsOwn generatedLast generatedLastSlot := by
  have hslot : generatedLastSlot.ttsTupleDescriptor = generatedLast := rfl
  have hlast : GeneratedLast (liveColumns generatedLast) := by decide
  exact (printsOwn_iff hslot).mpr (entriesOwn_of_generatedLast hlast _)

/-- A generated integer column before a text column. -/
def generatedFirst : TupleDesc :=
  [⟨"g".toList, INT4OID, -1, false, true, []⟩, ⟨"c".toList, TEXTOID, -1, false, false, []⟩]

/-- The text is printed by the output function of the integer column. -/
theorem generatedFirst_not_printsOwn :
    ¬PrintsOwn generatedFirst ⟨generatedFirst, [some (.word 1), some (.cstring "a".toList)]⟩ := by
  intro h
  have hown : EntriesOwn generatedFirst
      ⟨generatedFirst, [some (.word 1), some (.cstring "a".toList)]⟩ := h.entriesOwn rfl
  obtain ⟨other, hother, htype⟩ := hown 0 (⟨"c".toList, TEXTOID, -1, false, false, []⟩, 2) rfl
    (by rintro column hmem; cases List.mem_singleton.mp hmem; decide) (by rintro ⟨⟩)
  cases hother
  exact absurd htype (by decide)

end TiberoFdw
