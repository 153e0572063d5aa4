import TiberoFdw.Batches
import TiberoFdw.Modify

/-!
# The callbacks of scans and modifications

What keeps an invariant of the module over all its callbacks. A callback opens a
statement, or issues calls on one that was opened and reports their failures; so
an invariant needs a few rules about those (`StatementRules`, `CallbackRules`), and
every callback keeps it. `Using h key` is what holds, beside the invariant, while a
callback works on the statement `h` of the entry `key`.

`Backend` puts the callbacks together: any number of scans and modifications over
one connection cache, in any order, where an error ends one call only.
-/

namespace TiberoFdw

/-- The statement that a call uses. -/
def SqlCall.hstmt? : SqlCall → Option Handle
  | .freeStmt hstmt .close => some hstmt
  | .execDirect hstmt _ => some hstmt
  | .prepare hstmt _ => some hstmt
  | .execute hstmt _ => some hstmt
  | .fetch hstmt => some hstmt
  | .bindCol hstmt _ => some hstmt
  | .bindParameter hstmt _ _ _ => some hstmt
  | .setStmtAttr hstmt _ _ => some hstmt
  | .numResultCols hstmt => some hstmt
  | .describeCol hstmt _ => some hstmt
  | _ => none

/-- The rules for what holds while a callback works on a statement. -/
structure WorkRules (env : Environment) (I : World → Prop)
    (Using : Handle → ConnCacheKey → World → Prop) : Prop where
  inv : ∀ hstmt key w, Using hstmt key w → I w
  /-- a call on the statement, whatever it returns -/
  issued : ∀ hstmt key w call rc, call.hstmt? = some hstmt → Using hstmt key w →
    Using hstmt key (w.issued env call rc)
  /-- a failure is reported -/
  report : ∀ hstmt key, Proc.Triple (Using hstmt key) (dropConnection env key) (fun _ => I)
    (fun _ => I)

/-- The rules for what holds whether or not the module sleeps on a signal. -/
structure StatementRules (env : Environment) (I : World → Prop)
    (Using : Handle → ConnCacheKey → World → Prop) : Prop extends WorkRules env I Using where
  sleepUsing : ∀ hstmt key w useSleepOnSig, Using hstmt key w →
    Using hstmt key { w with useSleepOnSig }

/-- The rules for what holds while a callback works on a statement and its return codes are
checked: each rule is about a call with its check. -/
structure CheckedRules (env : Environment) (I : World → Prop)
    (Using : Handle → ConnCacheKey → World → Prop) : Prop where
  inv : ∀ hstmt key w, Using hstmt key w → I w
  call : ∀ hstmt key call, call.hstmt? = some hstmt →
    Proc.Triple (Using hstmt key) (tbCall env key call) (fun _ => Using hstmt key) (fun _ => I)
  fetch : ∀ tbStmt : TbStatement, Proc.Triple (Using tbStmt.hstmt tbStmt.conn)
    (tbSqlFetch env tbStmt) (fun _ => Using tbStmt.hstmt tbStmt.conn) (fun _ => I)
  execute : ∀ tbStmt : TbStatement, Proc.Triple (Using tbStmt.hstmt tbStmt.conn)
    (tbSqlExecute env tbStmt) (fun stmt w => stmt.hstmt = tbStmt.hstmt ∧
      stmt.conn = tbStmt.conn ∧ Using tbStmt.hstmt tbStmt.conn w) (fun _ => I)
  report : ∀ hstmt key sqlerrcode msg, Proc.Triple (Using hstmt key)
    (tbFdwReportError env key sqlerrcode msg) (fun _ => Using hstmt key) (fun _ => I)

/-- The rules for an invariant. -/
structure CallbackRules (pg : Postgres) (env : Environment) (I : World → Prop)
    (Using : Handle → ConnCacheKey → World → Prop) : Prop extends StatementRules env I Using where
  sleep : ∀ w useSleepOnSig, I w → I { w with useSleepOnSig }
  /-- the statement is dropped -/
  drop : ∀ tbStmt : TbStatement, Proc.Triple (Using tbStmt.hstmt tbStmt.conn)
    (tbSqlFreeStmt env tbStmt .drop) (fun _ => I) (fun _ => I)
  trouble : ∀ w inErrorRecursionTrouble, I w → I { w with inErrorRecursionTrouble }
  getTbStatement : ∀ user tbStmt useFbQuery,
    Proc.Triple I (getTbStatement pg env user tbStmt useFbQuery)
      (fun stmt => Using stmt.hstmt stmt.conn) (fun _ => I)
  getForeignServer : ∀ serverid, Proc.Keeps I (getForeignServer env serverid)
  xactCallback : ∀ event, Proc.Keeps I (tbfdwXactCallback env event)
  invalCallback : ∀ cacheid hashvalue, Proc.Keeps I (tbfdwInvalCallback cacheid hashvalue)

/-- The procedure works on the statement: it keeps what holds meanwhile, and the
invariant when it leaves by an error. -/
def Serves (I : World → Prop) (Using : Handle → ConnCacheKey → World → Prop) (hstmt : Handle)
    (key : ConnCacheKey) {α : Type} (m : Fdw α) : Prop :=
  Proc.Triple (Using hstmt key) m (fun _ => Using hstmt key) (fun _ => I)

section

variable {pg : Postgres} {env : Environment} {I : World → Prop}
  {Using : Handle → ConnCacheKey → World → Prop}
  {hstmt : Handle} {key : ConnCacheKey}

namespace Serves

variable {α β : Type} {m : Fdw α} {f : α → Fdw β}

theorem pure (a : α) : Serves I Using hstmt key (Pure.pure a : Fdw α) :=
  Proc.Triple.pure fun _ h => h

theorem read_bind {f : World → Fdw β} (h : ∀ w, Serves I Using hstmt key (f w)) :
    Serves I Using hstmt key (Proc.read >>= f) :=
  Proc.Triple.look h

theorem bind (hm : Serves I Using hstmt key m) (hf : ∀ a, Serves I Using hstmt key (f a)) :
    Serves I Using hstmt key (m >>= f) :=
  Proc.Triple.bind hm hf

theorem when {condition : Bool} {m : Fdw Unit} (hm : Serves I Using hstmt key m) :
    Serves I Using hstmt key (Proc.when condition m) := by
  cases condition
  · exact .pure ()
  · exact hm

theorem forEach {ι : Type} {l : List ι} {body : ι → Fdw Unit}
    (hb : ∀ i, Serves I Using hstmt key (body i)) :
    Serves I Using hstmt key (Proc.forEach l body) :=
  Proc.Triple.forEach fun i _ => hb i

end Serves

namespace WorkRules

/-! ## Calls on a statement -/

/-- Reporting never returns. -/
theorem serves_report (R : WorkRules env I Using) (sqlerrcode : SqlState) (msg : String) :
    Serves I Using hstmt key (tbFdwReportError env key sqlerrcode msg) :=
  Proc.Triple.bind (R.report hstmt key) fun _ => .raise fun _ h => h

theorem serves_checkReturn (R : WorkRules env I Using) (sqlerrcode : SqlState)
    (rc : SqlReturn) : Serves I Using hstmt key (checkReturn env key sqlerrcode rc) := by
  rw [checkReturn]
  split_ifs
  · exact .pure ()
  · exact R.serves_report _ _

theorem serves_issue (R : WorkRules env I Using) {call : SqlCall}
    (hcall : call.hstmt? = some hstmt) : Serves I Using hstmt key (issue env call) :=
  fun w h => R.issued hstmt key w call _ hcall h

theorem serves_call (R : WorkRules env I Using) {call : SqlCall}
    (hcall : call.hstmt? = some hstmt) : Serves I Using hstmt key (tbCall env key call) :=
  .bind (R.serves_issue hcall) fun _ => R.serves_checkReturn _ _

theorem serves_fetch (R : WorkRules env I Using) (tbStmt : TbStatement) :
    Serves I Using tbStmt.hstmt tbStmt.conn (tbSqlFetch env tbStmt) := by
  have hfetch : Serves I Using tbStmt.hstmt tbStmt.conn (sqlFetch env tbStmt.hstmt) := by
    intro w h
    have hissued := fun rc => R.issued tbStmt.hstmt tbStmt.conn w (.fetch tbStmt.hstmt) rc rfl h
    rw [sqlFetch]
    split_ifs <;> exact hissued _
  refine hfetch.bind fun r => ?_
  dsimp only
  split_ifs
  · exact .pure _
  · exact (R.serves_checkReturn _ _).bind fun _ => .pure _

/-- What holds whatever a call returns holds when its return code is checked. -/
theorem checked (R : WorkRules env I Using) : CheckedRules env I Using where
  inv := R.inv
  call _ _ _ hcall := R.serves_call hcall
  fetch := R.serves_fetch
  execute tbStmt := by
    refine .bind (Serves.read_bind fun w => R.serves_issue rfl) fun rc => ?_
    exact .bind (R.serves_checkReturn _ _) fun _ => .pure fun w h => ⟨rfl, rfl, h⟩
  report _ _ := R.serves_report

end WorkRules

namespace CheckedRules

/-! ## Checked calls on a statement -/

theorem raises (R : CheckedRules env I Using) {α : Type} (e : PgError) :
    Serves I Using hstmt key (Proc.raise e : Fdw α) :=
  .raise fun w h => R.inv hstmt key w h

theorem serves_call (R : CheckedRules env I Using) {call : SqlCall}
    (hcall : call.hstmt? = some hstmt) : Serves I Using hstmt key (tbCall env key call) :=
  R.call hstmt key call hcall

/-- The statement stays the same one. -/
theorem executeUnlessExecuted (R : CheckedRules env I Using) (tbStmt : TbStatement) :
    Proc.Triple (Using tbStmt.hstmt tbStmt.conn) (TiberoFdw.executeUnlessExecuted env tbStmt)
      (fun stmt w => stmt.hstmt = tbStmt.hstmt ∧ stmt.conn = tbStmt.conn ∧
        Using tbStmt.hstmt tbStmt.conn w) (fun _ => I) := by
  rw [TiberoFdw.executeUnlessExecuted]
  split_ifs
  · exact .pure fun w h => ⟨rfl, rfl, h⟩
  · exact R.execute tbStmt

theorem serves_bindParameter (R : CheckedRules env I Using) (tbStmt : TbStatement)
    (paramNo : Nat) (type : Oid) (source : ParamSource) :
    Serves I Using tbStmt.hstmt tbStmt.conn
      (tbSqlBindParameter env tbStmt paramNo type source) := by
  refine Serves.bind ?_ fun t => R.serves_call rfl
  rw [getTbTypeFromPgType]
  rcases tbTypeOf type with _ | t
  · exact R.raises _
  · exact .pure t

theorem serves_numResultCols (R : CheckedRules env I Using) (tbStmt : TbStatement) :
    Serves I Using tbStmt.hstmt tbStmt.conn (tbSqlNumResultCols env tbStmt) :=
  .read_bind fun _ => (R.serves_call rfl).bind fun _ => .pure _

theorem serves_describeCol (R : CheckedRules env I Using) (tbStmt : TbStatement)
    (colNo : Nat) :
    Serves I Using tbStmt.hstmt tbStmt.conn (tbSqlDescribeCol env tbStmt colNo) := by
  refine .read_bind fun _ => (R.serves_call rfl).bind fun _ => Serves.bind ?_ fun _ => .pure _
  rw [getTbTypeMaxStrSize]
  rcases maxStrSize _ _ with _ | res
  · exact Serves.bind (R.report _ _ _ _) fun _ => .pure _
  · exact .pure _

theorem serves_describeColumns (R : CheckedRules env I Using) (tbStmt : TbStatement)
    (l : List Nat) : Serves I Using tbStmt.hstmt tbStmt.conn (describeColumns env tbStmt l) := by
  induction l with
  | nil => exact .pure _
  | cons i rest ih =>
    exact (R.serves_describeCol tbStmt _).bind fun _ => ih.bind fun _ => .pure _

/-! ## Scans -/

/-- A scan begins, between the two settings of the flag. -/
theorem beginForeignScan (R : CheckedRules env I Using) {P P' : World → Prop}
    {Q : Handle → ConnCacheKey → World → Prop}
    (hon : ∀ w, P w → P' { w with useSleepOnSig := true })
    (hoff : ∀ hstmt key w, Using hstmt key w → Q hstmt key { w with useSleepOnSig := false })
    {user : UserMapping} {fsplan : ForeignScan}
    (hget : Proc.Triple P' (getTbStatement pg env user TbStatement.zeroed fsplan.useFbQuery)
      (fun stmt => Using stmt.hstmt stmt.conn) (fun _ => I)) (rel : Relation) :
    Proc.Triple P (tiberoBeginForeignScan pg env rel user false fsplan)
      (fun r w => ∃ fsstate, r = some fsstate ∧ Q fsstate.tbStmt.hstmt fsstate.tbStmt.conn w)
      (fun _ => I) := by
  rw [tiberoBeginForeignScan, if_neg (by decide)]
  refine .bind (.modify fun w h => hon w h) fun _ => .bind hget fun tbStmt => ?_
  refine .bind (R.serves_call rfl) fun _ => .bind (R.serves_numResultCols tbStmt) fun count => ?_
  refine .bind (R.serves_describeColumns tbStmt _) fun table => ?_
  refine .look fun w => .bind (Serves.when (R.serves_bindParameter tbStmt _ _ _)) fun _ => ?_
  refine .bind (R.serves_call rfl) fun _ => .bind (R.serves_call rfl) fun _ => ?_
  refine .bind (Serves.forEach fun i => R.serves_call rfl) fun _ => ?_
  exact .bind (.modify fun w h => hoff _ _ w h) fun _ => .pure fun w h => ⟨_, rfl, h⟩

theorem serves_makeTuples (R : CheckedRules env I Using) (fsstate : TbFdwScanState) :
    Serves I Using hstmt key (makeTuples pg fsstate) := by
  rw [makeTuples]
  rcases formTuples pg fsstate _ with e | tuples
  · exact R.raises _
  · exact .pure _

theorem serves_fetchTuples (R : CheckedRules env I Using) (fsstate : TbFdwScanState) :
    Serves I Using fsstate.tbStmt.hstmt fsstate.tbStmt.conn (fetchTuples pg env fsstate) := by
  refine Serves.bind (R.fetch fsstate.tbStmt) fun r => ?_
  dsimp only
  by_cases hend : (fsstate.endOfFetch || r.2) = true
  · rw [if_pos hend]
    exact .pure _
  · rw [if_neg hend]
    exact R.serves_makeTuples _

theorem serves_getNextTuple (R : CheckedRules env I Using) (fsstate : TbFdwScanState) :
    Serves I Using hstmt key (getNextTuple fsstate) := by
  rw [getNextTuple]
  split_ifs
  · exact .pure _
  · rcases fsstate.tuples[fsstate.curTupleIdx]? with _ | tuple
    · exact R.raises _
    · exact .pure _

/-- A scan goes on, between the two settings of the flag. -/
theorem iterateForeignScan (R : CheckedRules env I Using) {P Q : World → Prop}
    (fsstate : TbFdwScanState)
    (hon : ∀ w, P w →
      Using fsstate.tbStmt.hstmt fsstate.tbStmt.conn { w with useSleepOnSig := true })
    (hoff : ∀ w, Using fsstate.tbStmt.hstmt fsstate.tbStmt.conn w →
      Q { w with useSleepOnSig := false }) :
    Proc.Triple P (tiberoIterateForeignScan pg env fsstate) (fun _ => Q) (fun _ => I) := by
  refine .bind (.modify fun w h => hon w h) fun _ =>
    Proc.Triple.bind (R.executeUnlessExecuted _) fun stmt => ?_
  rintro w ⟨hstmt, hconn, h⟩
  have hfetch : Serves I Using stmt.hstmt stmt.conn
      (if needFetchTuples { fsstate with tbStmt := stmt } then
        fetchTuples pg env { fsstate with tbStmt := stmt }
      else pure { fsstate with tbStmt := stmt }) := by
    split_ifs
    · exact R.serves_fetchTuples { fsstate with tbStmt := stmt }
    · exact .pure _
  rw [← hstmt, ← hconn] at h hoff
  have hrest := Proc.Triple.bind hfetch fun fsstate₁ =>
    Proc.Triple.bind (R.serves_getNextTuple fsstate₁) fun next =>
      Proc.Triple.bind (.modify fun w h => hoff w h : Proc.Triple _ setSleepOnSigOff
        (fun _ => Q) (fun _ => I)) fun _ => .pure (a := next) fun w h => h
  exact hrest w h

/-! ## Inserts -/

theorem serves_bindInsertParams (R : CheckedRules env I Using) (fmstate : TbFdwExecState)
    (slot : TupleTableSlot) (targets : List Nat) (pindex findex : Nat) :
    Serves I Using fmstate.tbStmt.hstmt fmstate.tbStmt.conn
      (bindInsertParams pg env fmstate slot targets pindex findex) := by
  induction targets generalizing pindex findex with
  | nil => exact .pure _
  | cons target rest ih =>
    rw [bindInsertParams]
    rcases tupleDescAttr slot.ttsTupleDescriptor (target - 1) with _ | attr
    · exact ih pindex findex
    · dsimp only
      split_ifs
      · exact ih pindex findex
      · refine .bind (R.serves_bindParameter _ _ _ _) fun _ => ?_
        exact .bind (ih _ _) fun _ => .pure _

/-- A row is inserted, between the two settings of the flag. -/
theorem execForeignInsert (R : CheckedRules env I Using) {P Q : World → Prop}
    (fmstate : TbFdwExecState) (slot : TupleTableSlot)
    (hon : ∀ w, P w →
      Using fmstate.tbStmt.hstmt fmstate.tbStmt.conn { w with useSleepOnSig := true })
    (hoff : ∀ w, Using fmstate.tbStmt.hstmt fmstate.tbStmt.conn w →
      Q { w with useSleepOnSig := false }) :
    Proc.Triple P (tiberoExecForeignInsert pg env fmstate slot) (fun _ => Q) (fun _ => I) := by
  refine .bind (.modify fun w h => hon w h) fun _ =>
    .bind (R.serves_bindInsertParams _ _ _ _ _) fun _ => ?_
  refine Proc.Triple.bind (R.executeUnlessExecuted _) fun stmt => ?_
  exact .bind (.modify fun w h => hoff w h.2.2) fun _ => .pure fun w h => h

end CheckedRules

namespace StatementRules

theorem serves_sleepOn (R : StatementRules env I Using) :
    Serves I Using hstmt key setSleepOnSigOn :=
  .modify fun w h => R.sleepUsing hstmt key w true h

theorem serves_sleepOff (R : StatementRules env I Using) :
    Serves I Using hstmt key setSleepOnSigOff :=
  .modify fun w h => R.sleepUsing hstmt key w false h

/-- A scan that has begun can use its statement. -/
theorem beginForeignScan (R : StatementRules env I Using) {P : World → Prop}
    (hsleep : ∀ w useSleepOnSig, P w → P { w with useSleepOnSig }) {user : UserMapping}
    {fsplan : ForeignScan}
    (hget : Proc.Triple P (getTbStatement pg env user TbStatement.zeroed fsplan.useFbQuery)
      (fun stmt => Using stmt.hstmt stmt.conn) (fun _ => I)) (rel : Relation) :
    Proc.Triple P (tiberoBeginForeignScan pg env rel user false fsplan)
      (fun r w => ∃ fsstate, r = some fsstate ∧ Using fsstate.tbStmt.hstmt fsstate.tbStmt.conn w)
      (fun _ => I) :=
  R.checked.beginForeignScan (fun w h => hsleep w true h)
    (fun hstmt key w h => R.sleepUsing hstmt key w false h) hget rel

theorem iterateForeignScan (R : StatementRules env I Using) (fsstate : TbFdwScanState) :
    Serves I Using fsstate.tbStmt.hstmt fsstate.tbStmt.conn
      (tiberoIterateForeignScan pg env fsstate) :=
  R.checked.iterateForeignScan fsstate (fun w h => R.sleepUsing _ _ w true h)
    fun w h => R.sleepUsing _ _ w false h

theorem execForeignInsert (R : StatementRules env I Using) (fmstate : TbFdwExecState)
    (slot : TupleTableSlot) :
    Serves I Using fmstate.tbStmt.hstmt fmstate.tbStmt.conn
      (tiberoExecForeignInsert pg env fmstate slot) :=
  R.checked.execForeignInsert fmstate slot (fun w h => R.sleepUsing _ _ w true h)
    fun w h => R.sleepUsing _ _ w false h

/-- An insert goes on with the same statement. -/
theorem insert_hstmt {w w' : World} {fmstate fmstate' : TbFdwExecState} {slot : TupleTableSlot}
    {accesses : List (InsertArray × Nat)}
    (h : tiberoExecForeignInsert pg env fmstate slot w = .ok (fmstate', accesses) w') :
    fmstate'.tbStmt.hstmt = fmstate.tbStmt.hstmt := by
  rw [tiberoExecForeignInsert, setSleepOnSigOn, Proc.modify_bind_run] at h
  obtain ⟨_, w₁, -, h⟩ := Proc.bind_eq_ok.mp h
  obtain ⟨tbStmt, w₂, hexecute, h⟩ := Proc.bind_eq_ok.mp h
  cases h
  rw [TiberoFdw.executeUnlessExecuted] at hexecute
  split_ifs at hexecute
  · cases hexecute
    rfl
  · rw [(tbSqlExecute_ok hexecute).2.1]

end StatementRules

namespace CallbackRules

/-! ## The callbacks -/

theorem sleepOn (R : CallbackRules pg env I Using) : Proc.Keeps I setSleepOnSigOn :=
  .modify fun w h => R.sleep w true h

theorem sleepOff (R : CallbackRules pg env I Using) : Proc.Keeps I setSleepOnSigOff :=
  .modify fun w h => R.sleep w false h

/-- A scan begins. -/
theorem scanBegins (R : CallbackRules pg env I Using) (rel : Relation) (user : UserMapping)
    (fsplan : ForeignScan) :
    Proc.Triple I (tiberoBeginForeignScan pg env rel user false fsplan)
      (fun r w => ∃ fsstate, r = some fsstate ∧ Using fsstate.tbStmt.hstmt fsstate.tbStmt.conn w)
      (fun _ => I) :=
  R.beginForeignScan R.sleep (R.getTbStatement user TbStatement.zeroed fsplan.useFbQuery) rel

theorem reScanForeignScan (R : CallbackRules pg env I Using) (fsstate : TbFdwScanState) :
    Proc.Keeps I (tiberoReScanForeignScan fsstate) :=
  .bind R.sleepOn fun _ => .bind R.sleepOff fun _ => .pure _

theorem endForeignScan (R : CallbackRules pg env I Using) (fsstate : TbFdwScanState) :
    Proc.Triple (Using fsstate.tbStmt.hstmt fsstate.tbStmt.conn)
      (tiberoEndForeignScan env (some fsstate))
      (fun _ => I) (fun _ => I) :=
  .bind R.serves_sleepOn fun _ => .bind (R.drop _) fun _ => R.sleepOff

/-- A modification that has begun can use its statement. -/
theorem beginForeignModify (R : CallbackRules pg env I Using) (rel : Relation)
    (user : UserMapping) (explainOnly : Bool) (fdwPrivate : FdwModifyPrivate) :
    Proc.Triple I (tiberoBeginForeignModify pg env rel user explainOnly fdwPrivate)
      (fun r w => I w ∧ ∀ fmstate, r = some fmstate →
        Using fmstate.tbStmt.hstmt fmstate.tbStmt.conn w)
      (fun _ => I) := by
  rw [tiberoBeginForeignModify]
  split_ifs
  · exact .pure fun w h => ⟨h, by rintro fmstate ⟨⟩⟩
  refine .bind R.sleepOn fun _ => .bind (R.getForeignServer _) fun _ => ?_
  refine .bind (R.getTbStatement _ _ _) fun tbStmt => .bind (R.serves_call rfl) fun _ => ?_
  refine .bind R.serves_sleepOff fun _ => .pure fun w h => ⟨R.inv _ _ w h, ?_⟩
  rintro fmstate ⟨⟩
  exact h

theorem endForeignModify (R : CallbackRules pg env I Using) (fmstate : TbFdwExecState) :
    Proc.Triple (Using fmstate.tbStmt.hstmt fmstate.tbStmt.conn)
      (tiberoEndForeignModify env (some fmstate))
      (fun _ => I) (fun _ => I) :=
  .bind R.serves_sleepOn fun _ => .bind (R.drop _) fun _ => R.sleepOff

theorem subxactCallback (R : CallbackRules pg env I Using) : Proc.Keeps I tbfdwSubxactCallback :=
  .read_bind fun _ => .when (.bind R.sleepOn fun _ => R.sleepOff)

end CallbackRules

end

/-! ## A backend -/

/-- The scans and modifications of a backend; one that was ended is `none`. -/
structure Backend where
  scans : List (Option TbFdwScanState)
  modifies : List (Option TbFdwExecState)
  /-- the number of driver calls before the running statement -/
  statementFrom : Nat

/-- A backend without scans and modifications. -/
def Backend.start : Backend := ⟨[], [], 0⟩

/-- The state of the `i`-th scan, unless it has ended or did not begin. -/
def Backend.scan (b : Backend) (i : Nat) : Option TbFdwScanState := (b.scans[i]?).join

/-- The state of the `i`-th modification, unless it has ended or did not begin. -/
def Backend.modify (b : Backend) (i : Nat) : Option TbFdwExecState := (b.modifies[i]?).join

namespace Backend

variable {α : Type} {l : List (Option α)} {b : Backend} {i : Nat}

theorem join_set (hi : i < l.length) (x : Option α) (j : Nat) :
    ((l.set i x)[j]?).join = if j = i then x else (l[j]?).join := by
  rw [List.getElem?_set]
  by_cases hij : i = j
  · subst hij
    rw [if_pos rfl, if_pos hi, if_pos rfl]
    rfl
  · rw [if_neg hij, if_neg (Ne.symm hij)]

theorem join_append (l : List (Option α)) (x : Option α) (j : Nat) :
    ((l ++ [x])[j]?).join = if j = l.length then x else (l[j]?).join := by
  rcases Nat.lt_trichotomy j l.length with hlt | rfl | hgt
  · rw [List.getElem?_append_left hlt, if_neg (Nat.ne_of_lt hlt)]
  · rw [List.getElem?_concat_length, if_pos rfl]
    rfl
  · rw [if_neg (Nat.ne_of_gt hgt), List.getElem?_eq_none (Nat.le_of_lt hgt),
      List.getElem?_eq_none]
    rw [List.length_append]
    exact hgt

theorem scan_set {fsstate : TbFdwScanState} (hscan : b.scan i = some fsstate)
    (x : Option TbFdwScanState) (j : Nat) :
    ({ b with scans := b.scans.set i x } : Backend).scan j = if j = i then x else b.scan j := by
  refine join_set (Nat.lt_of_not_le fun hle => ?_) x j
  rw [Backend.scan, List.getElem?_eq_none hle] at hscan
  cases hscan

theorem modify_set {fmstate : TbFdwExecState} (hmodify : b.modify i = some fmstate)
    (x : Option TbFdwExecState) (j : Nat) :
    ({ b with modifies := b.modifies.set i x } : Backend).modify j =
      if j = i then x else b.modify j := by
  refine join_set (Nat.lt_of_not_le fun hle => ?_) x j
  rw [Backend.modify, List.getElem?_eq_none hle] at hmodify
  cases hmodify

theorem scan_append (b : Backend) (x : Option TbFdwScanState) (j : Nat) :
    ({ b with scans := b.scans ++ [x] } : Backend).scan j =
      if j = b.scans.length then x else b.scan j :=
  join_append b.scans x j

theorem modify_append (b : Backend) (x : Option TbFdwExecState) (j : Nat) :
    ({ b with modifies := b.modifies ++ [x] } : Backend).modify j =
      if j = b.modifies.length then x else b.modify j :=
  join_append b.modifies x j

end Backend

/-- What PostgreSQL may call. -/
inductive BackendOp : Type where
  | startTransaction (isolationUsesXactSnapshot : Bool)
  | startStatement (timestamp : Int)
  | beginScan (rel : Relation) (user : UserMapping) (fsplan : ForeignScan)
  | iterate (i : Nat)
  | reScan (i : Nat)
  | endScan (i : Nat)
  | beginModify (rel : Relation) (user : UserMapping) (fdwPrivate : FdwModifyPrivate)
  | insert (i : Nat) (slot : TupleTableSlot)
  | endModify (i : Nat)
  | xactEvent (event : XactEvent) (inErrorRecursionTrouble : Bool)
  | subxactEvent
  | invalidate (cacheid : CacheId) (hashvalue : Nat)

/-- One call. -/
def BackendOp.run (pg : Postgres) (env : Environment) : BackendOp → Backend → Fdw Backend
  | .startTransaction isolationUsesXactSnapshot, b => do
    Proc.modify fun w => { w with isolationUsesXactSnapshot }
    pure b
  | .startStatement timestamp, b => do
    let w ← Proc.read
    Proc.modify fun w => { w with statementStart := timestamp }
    pure { b with statementFrom := w.trace.length }
  | .beginScan rel user fsplan, b => do
    let fsstate ← tiberoBeginForeignScan pg env rel user false fsplan
    pure { b with scans := b.scans ++ [fsstate] }
  | .iterate i, b =>
    match b.scan i with
    | some fsstate => do
      let (fsstate, _) ← tiberoIterateForeignScan pg env fsstate
      pure { b with scans := b.scans.set i (some fsstate) }
    | none => pure b
  | .reScan i, b =>
    match b.scan i with
    | some fsstate => do
      let fsstate ← tiberoReScanForeignScan fsstate
      pure { b with scans := b.scans.set i (some fsstate) }
    | none => pure b
  | .endScan i, b =>
    match b.scan i with
    | some fsstate => do
      tiberoEndForeignScan env (some fsstate)
      pure { b with scans := b.scans.set i none }
    | none => pure b
  | .beginModify rel user fdwPrivate, b => do
    let fmstate ← tiberoBeginForeignModify pg env rel user false fdwPrivate
    pure { b with modifies := b.modifies ++ [fmstate] }
  | .insert i slot, b =>
    match b.modify i with
    | some fmstate => do
      let (fmstate, _) ← tiberoExecForeignInsert pg env fmstate slot
      pure { b with modifies := b.modifies.set i (some fmstate) }
    | none => pure b
  | .endModify i, b =>
    match b.modify i with
    | some fmstate => do
      tiberoEndForeignModify env (some fmstate)
      pure { b with modifies := b.modifies.set i none }
    | none => pure b
  | .xactEvent event inErrorRecursionTrouble, b => do
    Proc.modify fun w => { w with inErrorRecursionTrouble }
    tbfdwXactCallback env event
    pure b
  | .subxactEvent, b => do
    tbfdwSubxactCallback
    pure b
  | .invalidate cacheid hashvalue, b => do
    tbfdwInvalCallback cacheid hashvalue
    pure b

/-- One call; an error ends it, and the backend goes on. -/
def BackendOp.step (pg : Postgres) (env : Environment) (op : BackendOp) (b : Backend) :
    Fdw Backend :=
  (op.run pg env b).onError fun _ => pure b

/-- Any number of calls. -/
def runBackend (pg : Postgres) (env : Environment) (ops : List BackendOp) (b : Backend) :
    Fdw Backend :=
  Proc.fold (BackendOp.step pg env) ops b

/-- The call sets the moment of the calls that follow. -/
def BackendOp.setsMoment : BackendOp → Bool
  | .startTransaction _ => true
  | .startStatement _ => true
  | _ => false

section

variable {pg : Postgres} {env : Environment} {I : World → Prop}

theorem CallbackRules.keeps_run (R : CallbackRules pg env I fun _ _ => I) {op : BackendOp}
    (hop : op.setsMoment = false) (b : Backend) : Proc.Keeps I (op.run pg env b) := by
  cases op with
  | startTransaction | startStatement => cases hop
  | beginScan rel user fsplan =>
    refine .bind (.weaken (R.scanBegins rel user fsplan) ?_ ?_ ?_) fun _ => .pure _
    · exact fun w h => h
    · rintro r w ⟨fsstate, -, h⟩
      exact h
    · exact fun e w h => h
  | iterate i =>
    rw [BackendOp.run]
    rcases b.scan i with _ | fsstate
    · exact .pure b
    · exact .bind (R.iterateForeignScan fsstate) fun _ => .pure _
  | reScan i =>
    rw [BackendOp.run]
    rcases b.scan i with _ | fsstate
    · exact .pure b
    · exact .bind (R.reScanForeignScan fsstate) fun _ => .pure _
  | endScan i =>
    rw [BackendOp.run]
    rcases b.scan i with _ | fsstate
    · exact .pure b
    · exact .bind (R.endForeignScan fsstate) fun _ => .pure _
  | beginModify rel user fdwPrivate =>
    refine .bind (.weaken (R.beginForeignModify rel user false fdwPrivate) ?_ ?_ ?_)
      fun _ => .pure _
    · exact fun w h => h
    · exact fun r w h => h.1
    · exact fun e w h => h
  | insert i slot =>
    rw [BackendOp.run]
    rcases b.modify i with _ | fmstate
    · exact .pure b
    · exact .bind (R.execForeignInsert fmstate slot) fun _ => .pure _
  | endModify i =>
    rw [BackendOp.run]
    rcases b.modify i with _ | fmstate
    · exact .pure b
    · exact .bind (R.endForeignModify fmstate) fun _ => .pure _
  | xactEvent event trouble =>
    refine .bind (.modify fun w h => R.trouble w trouble h) fun _ => ?_
    exact .bind (R.xactCallback event) fun _ => .pure b
  | subxactEvent => exact .bind R.subxactCallback fun _ => .pure b
  | invalidate cacheid hashvalue => exact .bind (R.invalCallback cacheid hashvalue) fun _ => .pure b

/-- **Every call of a backend keeps the invariant.** The invariants of the development give the
rules, and have it of all callbacks at once. -/
theorem CallbackRules.keeps_step (R : CallbackRules pg env I fun _ _ => I) {op : BackendOp}
    (hop : op.setsMoment = false) (b : Backend) : Proc.Keeps I (op.step pg env b) :=
  .onError (R.keeps_run hop b) fun _ => .pure b

/-- The backend goes on. -/
theorem BackendOp.step_returns (op : BackendOp) (b : Backend) (w : World) :
    ∃ b' w', op.step pg env b w = .ok b' w' := by
  rcases hrun : op.run pg env b w with ⟨b', w'⟩ | ⟨e, w'⟩
  · exact ⟨b', w', Proc.onError_of_ok hrun⟩
  · exact ⟨b, w', Proc.onError_of_raise hrun⟩

/-- A call returns, or its error is caught. -/
theorem BackendOp.step_cases {op : BackendOp} {b b' : Backend} {w w' : World}
    (h : op.step pg env b w = .ok b' w') :
    op.run pg env b w = .ok b' w' ∨ ∃ e, op.run pg env b w = .raise e w' ∧ b' = b := by
  rcases hrun : op.run pg env b w with ⟨b₁, w₁⟩ | ⟨e, w₁⟩
  · rw [BackendOp.step, Proc.onError_of_ok hrun] at h
    exact .inl h
  · rw [BackendOp.step, Proc.onError_of_raise hrun] at h
    cases h
    exact .inr ⟨e, rfl, rfl⟩

/-- An iteration leaves the world that `tiberoIterateForeignScan` leaves. -/
theorem BackendOp.iterate_next {b : Backend} {i : Nat} {fsstate : TbFdwScanState}
    (hscan : b.scan i = some fsstate) (w : World) :
    ((BackendOp.iterate i).step pg env b w).next =
      (tiberoIterateForeignScan pg env fsstate w).next := by
  obtain ⟨b', w', hstep⟩ : ∃ b' w', (BackendOp.iterate i).step pg env b w = .ok b' w' :=
    BackendOp.step_returns _ b w
  have hcases := BackendOp.step_cases hstep
  rw [BackendOp.run, hscan] at hcases
  rw [hstep]
  rcases hcases with hrun | ⟨e, hrun, -⟩
  · obtain ⟨r, w₁, hiterate, hend⟩ := Proc.bind_eq_ok.mp hrun
    cases hend
    rw [hiterate]
    rfl
  · rcases Proc.bind_eq_raise.mp hrun with hiterate | ⟨r, w₁, -, hend⟩
    · rw [hiterate]
      rfl
    · cases hend

/-- The start of the running statement is noted when it starts. -/
theorem BackendOp.step_statementFrom {op : BackendOp} {b b' : Backend} {w w' : World}
    (hop : op.setsMoment = false) (h : op.step pg env b w = .ok b' w') :
    b'.statementFrom = b.statementFrom := by
  rcases BackendOp.step_cases h with hrun | ⟨e, -, rfl⟩
  · cases op with
    | startTransaction | startStatement => cases hop
    | beginScan | beginModify | subxactEvent | invalidate =>
      obtain ⟨_, _, _, hrun⟩ := Proc.bind_eq_ok.mp hrun
      cases hrun
      rfl
    | xactEvent =>
      obtain ⟨_, _, _, hrun⟩ := Proc.bind_eq_ok.mp hrun
      obtain ⟨_, _, _, hrun⟩ := Proc.bind_eq_ok.mp hrun
      cases hrun
      rfl
    | iterate i | reScan i | endScan i =>
      rw [BackendOp.run] at hrun
      rcases hi : b.scan i with _ | fsstate
      · rw [hi] at hrun
        cases hrun
        rfl
      · rw [hi] at hrun
        obtain ⟨_, _, _, hrun⟩ := Proc.bind_eq_ok.mp hrun
        cases hrun
        rfl
    | insert i | endModify i =>
      rw [BackendOp.run] at hrun
      rcases hi : b.modify i with _ | fmstate
      · rw [hi] at hrun
        cases hrun
        rfl
      · rw [hi] at hrun
        obtain ⟨_, _, _, hrun⟩ := Proc.bind_eq_ok.mp hrun
        cases hrun
        rfl
  · rfl

end

end TiberoFdw
