import TiberoFdw.LiveHandles

/-!
# Who holds a statement

Each scan and each modification of a backend has a statement of its own
(`Backend.Separate`), so that ending one leaves those of the others. Nothing in the code
asks whether the connection of a statement is still there. A run uses no handle that was
freed **as long as every callback works on a statement of the connection that its entry
has** (`onCurrent`), and no connection is freed without its environment.
-/

namespace TiberoFdw

/-- The statement of a scan or of a modification. -/
def Backend.hstmt (b : Backend) : Nat ⊕ Nat → Option Handle
  | .inl i => (b.scan i).map (·.tbStmt.hstmt)
  | .inr i => (b.modify i).map (·.tbStmt.hstmt)

/-- The statements of a backend. -/
def Backend.Holds (b : Backend) (h : Handle) : Prop := ∃ s, b.hstmt s = some h

/-- No statement has two owners. -/
def Backend.Separate (b : Backend) : Prop :=
  ∀ s s' h, b.hstmt s = some h → b.hstmt s' = some h → s = s'

/-- What holds between the calls. -/
structure HandlesOwned (b : Backend) (w : World) : Prop where
  separate : b.Separate
  kept : HandlesKept b.Holds w

section

variable {pg : Postgres} {env : Environment} {w w' : World} {key : ConnCacheKey}
  {S : Handle → Prop} {b b' : Backend} {slot : Nat ⊕ Nat} {hstmt : Handle}

/-! ## Owners -/

namespace Backend

variable {i : Nat}

theorem hstmt_of_scan {fsstate : TbFdwScanState} (hscan : b.scan i = some fsstate) :
    b.hstmt (.inl i) = some fsstate.tbStmt.hstmt := by
  rw [hstmt, hscan]
  rfl

theorem hstmt_of_modify {fmstate : TbFdwExecState} (hmodify : b.modify i = some fmstate) :
    b.hstmt (.inr i) = some fmstate.tbStmt.hstmt := by
  rw [hstmt, hmodify]
  rfl

theorem hstmt_scan_set {fsstate : TbFdwScanState} (hscan : b.scan i = some fsstate)
    (x : Option TbFdwScanState) (s : Nat ⊕ Nat) :
    ({ b with scans := b.scans.set i x } : Backend).hstmt s =
      if s = .inl i then x.map (·.tbStmt.hstmt) else b.hstmt s := by
  rcases s with j | j
  · rw [hstmt, scan_set hscan]
    by_cases hj : j = i
    · rw [if_pos hj, if_pos (congrArg Sum.inl hj)]
    · rw [if_neg hj, if_neg fun heq => hj (Sum.inl.inj heq)]
      rfl
  · rfl

theorem hstmt_scan_append (b : Backend) (x : Option TbFdwScanState) (s : Nat ⊕ Nat) :
    ({ b with scans := b.scans ++ [x] } : Backend).hstmt s =
      if s = .inl b.scans.length then x.map (·.tbStmt.hstmt) else b.hstmt s := by
  rcases s with j | j
  · rw [hstmt, scan_append]
    by_cases hj : j = b.scans.length
    · rw [if_pos hj, if_pos (congrArg Sum.inl hj)]
    · rw [if_neg hj, if_neg fun heq => hj (Sum.inl.inj heq)]
      rfl
  · rfl

theorem hstmt_modify_set {fmstate : TbFdwExecState} (hmodify : b.modify i = some fmstate)
    (x : Option TbFdwExecState) (s : Nat ⊕ Nat) :
    ({ b with modifies := b.modifies.set i x } : Backend).hstmt s =
      if s = .inr i then x.map (·.tbStmt.hstmt) else b.hstmt s := by
  rcases s with j | j
  · rfl
  · rw [hstmt, modify_set hmodify]
    by_cases hj : j = i
    · rw [if_pos hj, if_pos (congrArg Sum.inr hj)]
    · rw [if_neg hj, if_neg fun heq => hj (Sum.inr.inj heq)]
      rfl

theorem hstmt_modify_append (b : Backend) (x : Option TbFdwExecState) (s : Nat ⊕ Nat) :
    ({ b with modifies := b.modifies ++ [x] } : Backend).hstmt s =
      if s = .inr b.modifies.length then x.map (·.tbStmt.hstmt) else b.hstmt s := by
  rcases s with j | j
  · rfl
  · rw [hstmt, modify_append]
    by_cases hj : j = b.modifies.length
    · rw [if_pos hj, if_pos (congrArg Sum.inr hj)]
    · rw [if_neg hj, if_neg fun heq => hj (Sum.inr.inj heq)]
      rfl

end Backend

/-- An owner goes on with its statement. -/
theorem HandlesOwned.stays (hown : b.Separate) (h : HandlesKept b.Holds w)
    (hslot : b.hstmt slot = some hstmt)
    (hb' : ∀ s, b'.hstmt s = if s = slot then some hstmt else b.hstmt s) : HandlesOwned b' w := by
  have hsame : ∀ s, b'.hstmt s = b.hstmt s := by
    intro s
    rw [hb']
    split_ifs with hs
    · rw [hs, hslot]
    · rfl
  refine ⟨fun s s' h hs hs' => ?_, h.mono ?_⟩
  · rw [hsame] at hs hs'
    exact hown s s' h hs hs'
  · rintro h ⟨s, hs⟩
    exact ⟨s, (hsame s).symm.trans hs⟩

/-- A new owner has a new statement. -/
theorem HandlesOwned.added (hown : b.Separate) (hnew : ¬b.Holds hstmt)
    (h : Working b.Holds hstmt key w)
    (hb' : ∀ s, b'.hstmt s = if s = slot then some hstmt else b.hstmt s) : HandlesOwned b' w := by
  refine ⟨fun s s' h hs hs' => ?_, ?_⟩
  · rw [hb'] at hs hs'
    split_ifs at hs hs' with heq heq' heq'
    · rw [heq, heq']
    · cases hs
      exact (hnew ⟨s', hs'⟩).elim
    · cases hs'
      exact (hnew ⟨s, hs⟩).elim
    · exact hown s s' h hs hs'
  · refine ⟨h.kept.used, h.kept.env, h.kept.dbc, h.kept.separate, h.kept.session, h.kept.ended, ?_⟩
    rintro h' ⟨s, hs⟩
    rw [hb'] at hs
    split_ifs at hs
    · cases hs
      exact ⟨(Bool.and_eq_true_iff.mp h.usable).1, h.le⟩
    · exact h.kept.stmts h' ⟨s, hs⟩

/-- An owner has ended its statement. -/
theorem HandlesOwned.removed (hown : b.Separate) (hslot : b.hstmt slot = some hstmt)
    (h : HandlesKept (fun h => b.Holds h ∧ h ≠ hstmt) w)
    (hb' : ∀ s, b'.hstmt s = if s = slot then none else b.hstmt s) : HandlesOwned b' w := by
  refine ⟨fun s s' h hs hs' => ?_, h.mono ?_⟩
  · rw [hb'] at hs hs'
    split_ifs at hs hs'
    exact hown s s' h hs hs'
  · rintro h' ⟨s, hs⟩
    rw [hb'] at hs
    split_ifs at hs with heq
    refine ⟨⟨s, hs⟩, ?_⟩
    rintro rfl
    exact heq (hown s slot _ hs hslot)

/-! ## The callbacks -/

/-- The statement is one of the connection that its entry has. -/
def onCurrent (stmt : TbStatement) (w : World) : Bool :=
  decide (stmt.conn ∈ w.keys) && (w.conn stmt.conn).connected &&
    w.handles.session stmt.hstmt == (w.conn stmt.conn).hdbc

/-- The iteration executes the statement or fetches rows. -/
def usesStatement (fsstate : TbFdwScanState) : Bool :=
  !fsstate.tbStmt.queryExecuted || needFetchTuples fsstate

theorem HandlesKept.working (h : HandlesKept S w) {stmt : TbStatement} (hS : S stmt.hstmt)
    (hcurrent : onCurrent stmt w = true) : Working S stmt.hstmt stmt.conn w := by
  rw [onCurrent, Bool.and_eq_true, Bool.and_eq_true, decide_eq_true_eq, beq_iff_eq] at hcurrent
  obtain ⟨⟨hkey, hconnected⟩, hsession⟩ := hcurrent
  obtain ⟨hopen, hle⟩ := h.stmts _ hS
  refine ⟨h, ?_, hle, hkey, hconnected⟩
  rw [Handles.usable, hopen]
  rcases hended : w.handles.ended stmt.hstmt with _ | _
  · rfl
  · exact (h.ended _ _ hopen hended ⟨hkey, hconnected⟩ hsession).elim

/-- The rules, for a statement that none of `S` is. -/
theorem statementRules_new (env : Environment) (S : Handle → Prop) :
    StatementRules env (HandlesKept S) fun hstmt key w => ¬S hstmt ∧ Working S hstmt key w where
  inv _ _ _ h := h.2.kept
  sleepUsing hstmt key w useSleepOnSig h :=
    ⟨h.1, (statementRules_handles env S).sleepUsing hstmt key w useSleepOnSig h.2⟩
  issued hstmt key w call rc hcall h :=
    ⟨h.1, (statementRules_handles env S).issued hstmt key w call rc hcall h.2⟩
  report hstmt key :=
    ((statementRules_handles env S).report hstmt key).strengthen_pre fun _ h => h.2

theorem tiberoBeginForeignScan_new (rel : Relation) (user : UserMapping) (fsplan : ForeignScan) :
    Proc.Triple (fun w => HandlesKept S w ∧ disconnectsWhole env user.umid w = true)
      (tiberoBeginForeignScan pg env rel user false fsplan)
      (fun r w => ∃ fsstate, r = some fsstate ∧ ¬S fsstate.tbStmt.hstmt ∧
        Working S fsstate.tbStmt.hstmt fsstate.tbStmt.conn w) fun _ => HandlesKept S :=
  (statementRules_new env S).beginForeignScan
    (fun _ _ h => ⟨h.1.same rfl rfl rfl, h.2⟩) (getTbStatement_working user _ _) rel

/-- Where `tiberoBeginForeignModify` has looked up the server. -/
def modifyLookup (env : Environment) (user : UserMapping) (w : World) : World :=
  ((do
    setSleepOnSigOn
    getForeignServer env user.serverid : Fdw ForeignServer) w).next

theorem tiberoBeginForeignModify_new (rel : Relation) (user : UserMapping)
    (fdwPrivate : FdwModifyPrivate) :
    Proc.Triple (fun w => HandlesKept S w ∧
        disconnectsWhole env user.umid (modifyLookup env user w) = true)
      (tiberoBeginForeignModify pg env rel user false fdwPrivate)
      (fun r w => ∃ fmstate, r = some fmstate ∧ ¬S fmstate.tbStmt.hstmt ∧
        Working S fmstate.tbStmt.hstmt fmstate.tbStmt.conn w) fun _ => HandlesKept S := by
  have hprepare : ∀ tbStmt : TbStatement, Proc.Triple
      (fun w => ¬S tbStmt.hstmt ∧ Working S tbStmt.hstmt tbStmt.conn w)
      (do
        let tbStmt := { tbStmt with queryExecuted := false }
        tbSqlPrepare env tbStmt fdwPrivate.query
        setSleepOnSigOff
        pure (some
          { query := fdwPrivate.query
            targetAttrs := fdwPrivate.targetAttrs
            pNums := (insertOutputFunctions pg rel.tupdesc fdwPrivate.targetAttrs).length
            pFlinfo := insertOutputFunctions pg rel.tupdesc fdwPrivate.targetAttrs
            tbStmt := tbStmt }) : Fdw (Option TbFdwExecState))
      (fun r w => ∃ fmstate, r = some fmstate ∧ ¬S fmstate.tbStmt.hstmt ∧
        Working S fmstate.tbStmt.hstmt fmstate.tbStmt.conn w) fun _ => HandlesKept S := by
    intro tbStmt
    refine .bind ((statementRules_new env S).serves_call rfl) fun _ => ?_
    refine .bind (statementRules_new env S).serves_sleepOff fun _ => ?_
    exact .pure fun w h => ⟨_, rfl, h⟩
  rintro w ⟨h, hwhole⟩
  have hlooked : HandlesKept S (modifyLookup env user w) := by
    have hsleep : HandlesKept S { w with useSleepOnSig := true } := h.same rfl rfl rfl
    exact ((lookupRules_handles user.umid S).getForeignServer user.serverid).next hsleep
  obtain ⟨w₁, hlookup, -, -⟩ :=
    getForeignServer_run env user.serverid { w with useSleepOnSig := true }
  have hnext : modifyLookup env user w = w₁ := by
    rw [modifyLookup, setSleepOnSigOn, Proc.modify_bind_run, hlookup]
    rfl
  rw [hnext] at hwhole hlooked
  rw [tiberoBeginForeignModify, if_neg (by decide), setSleepOnSigOn, Proc.modify_bind_run,
    Proc.bind_of_ok hlookup]
  exact Proc.Triple.bind (getTbStatement_working user _ _) hprepare w₁ ⟨hlooked, hwhole⟩

/-- An iteration that neither executes nor fetches issues no call. -/
theorem tiberoIterateForeignScan_silent {fsstate : TbFdwScanState}
    (huses : usesStatement fsstate = false) :
    Proc.Keeps (HandlesKept S) (tiberoIterateForeignScan pg env fsstate) := by
  rw [usesStatement, Bool.or_eq_false_iff, Bool.not_eq_false'] at huses
  obtain ⟨hexecuted, hfetched⟩ := huses
  have hrest : Proc.Keeps (HandlesKept S) (getNextTuple fsstate >>= fun r =>
      setSleepOnSigOff >>= fun _ => pure (r.1, r.2)) := by
    refine .bind ?_ fun r => .bind (.modify fun w h => h.same rfl rfl rfl) fun _ => .pure _
    rw [getNextTuple]
    split_ifs
    · exact .pure _
    · rcases fsstate.tuples[fsstate.curTupleIdx]? with _ | tuple
      · exact .raise _
      · exact .pure _
  have hsame : executeUnlessExecuted env fsstate.tbStmt = pure fsstate.tbStmt := by
    rw [executeUnlessExecuted, if_pos hexecuted]
  intro w h
  rw [tiberoIterateForeignScan, setSleepOnSigOn, Proc.modify_bind_run, hsame, Proc.pure_bind_run]
  dsimp only
  rw [hfetched]
  exact hrest _ (h.same rfl rfl rfl)

/-- An iteration works on a statement of the connection that is there. -/
theorem tiberoIterateForeignScan_handles {fsstate : TbFdwScanState} (hS : S fsstate.tbStmt.hstmt) :
    Proc.Triple (fun w => HandlesKept S w ∧
        (!usesStatement fsstate || onCurrent fsstate.tbStmt w) = true)
      (tiberoIterateForeignScan pg env fsstate) (fun _ => HandlesKept S)
      fun _ => HandlesKept S := by
  rcases huses : usesStatement fsstate with _ | _
  · exact (tiberoIterateForeignScan_silent huses).strengthen_pre fun _ h => h.1
  · exact .weaken ((statementRules_handles env S).iterateForeignScan fsstate)
      (fun _ h => h.1.working hS h.2) (fun _ _ h => h.kept) fun _ _ h => h

theorem endStatement_handles {tbStmt : TbStatement} (hS : S tbStmt.hstmt) :
    Proc.Triple (fun w => HandlesKept S w ∧ onCurrent tbStmt w = true)
      (do
        setSleepOnSigOn
        tbSqlFreeStmt env tbStmt .drop
        setSleepOnSigOff : Fdw Unit)
      (fun _ => HandlesKept fun h => S h ∧ h ≠ tbStmt.hstmt) fun _ => HandlesKept S := by
  have hworking : Proc.Triple (fun w => HandlesKept S w ∧ onCurrent tbStmt w = true)
      setSleepOnSigOn (fun _ => Working S tbStmt.hstmt tbStmt.conn) fun _ => HandlesKept S :=
    Proc.Triple.strengthen_pre (statementRules_handles env S).serves_sleepOn
      fun _ h => h.1.working hS h.2
  exact .bind hworking fun _ => .bind (freeStmt_handles tbStmt) fun _ =>
    .modify fun _ h => h.same rfl rfl rfl

/-! ## Runs -/

/-- The call works on a statement of the connection that its entry has, and what it
disconnects is freed as a whole. -/
def handlesReady (env : Environment) (op : BackendOp) (b : Backend) (w : World) : Bool :=
  match op with
  | .beginScan _ user _ => disconnectsWhole env user.umid w
  | .iterate i => (b.scan i).all fun fsstate =>
    !usesStatement fsstate || onCurrent fsstate.tbStmt w
  | .endScan i => (b.scan i).all fun fsstate => onCurrent fsstate.tbStmt w
  | .beginModify _ user _ => disconnectsWhole env user.umid (modifyLookup env user w)
  | .insert i _ | .endModify i => (b.modify i).all fun fmstate => onCurrent fmstate.tbStmt w
  | .xactEvent event inErrorRecursionTrouble =>
    xactEndsWhole env event { w with inErrorRecursionTrouble }
  | _ => true

/-- One call of the backend, on both exits. -/
theorem HandlesOwned.run (hown : b.Separate) (op : BackendOp) :
    Proc.Triple (fun w => HandlesKept b.Holds w ∧ handlesReady env op b w = true)
      (op.run pg env b) HandlesOwned fun _ => HandlesKept b.Holds := by
  have hset : ∀ {f : World → World}, (∀ w, HandlesKept b.Holds w → HandlesKept b.Holds (f w)) →
      Proc.Triple (fun w => HandlesKept b.Holds w ∧ handlesReady env op b w = true)
        (Proc.modify f : Fdw Unit) (fun _ => HandlesKept b.Holds) fun _ => HandlesKept b.Holds :=
    fun hf => .modify fun w h => hf w h.1
  cases op with
  | startTransaction isolationUsesXactSnapshot =>
    refine .bind (hset (f := fun w => { w with isolationUsesXactSnapshot }) fun w h =>
      h.same rfl rfl rfl) fun _ => ?_
    exact .pure fun w h => ⟨hown, h⟩
  | startStatement timestamp =>
    refine .look fun w => .bind (hset (f := fun w => { w with statementStart := timestamp })
      fun w h => h.same rfl rfl rfl) fun _ => ?_
    exact .pure fun w h => ⟨hown, h⟩
  | beginScan rel user fsplan =>
    refine .bind (tiberoBeginForeignScan_new rel user fsplan) fun r => .pure ?_
    rintro w ⟨fsstate, rfl, hnew, hworking⟩
    exact .added hown hnew hworking (Backend.hstmt_scan_append b (some fsstate))
  | iterate i =>
    rw [BackendOp.run]
    rcases hscan : b.scan i with _ | fsstate
    · exact .pure fun w h => ⟨hown, h.1⟩
    have hslot := Backend.hstmt_of_scan hscan
    have hholds : b.Holds fsstate.tbStmt.hstmt := ⟨_, hslot⟩
    have hiterate := (@tiberoIterateForeignScan_handles pg env _ _ hholds).returned
      (p := fun r => r.1.tbStmt.hstmt = fsstate.tbStmt.hstmt) fun r w w' hrun => by
        rw [iterate_tbStmt hrun]
    refine .bind (hiterate.strengthen_pre ?_) fun r => .pure ?_
    · rintro w ⟨h, hready⟩
      rw [handlesReady, hscan] at hready
      exact ⟨h, hready⟩
    · rintro w ⟨hhstmt, h⟩
      refine .stays hown h hslot fun s => ?_
      rw [Backend.hstmt_scan_set hscan, ← hhstmt]
      rfl
  | reScan i =>
    rw [BackendOp.run]
    rcases hscan : b.scan i with _ | fsstate
    · exact .pure fun w h => ⟨hown, h.1⟩
    have hslot := Backend.hstmt_of_scan hscan
    rintro w ⟨h, -⟩
    exact .stays hown (h.same rfl rfl rfl) hslot (Backend.hstmt_scan_set hscan _)
  | endScan i =>
    rw [BackendOp.run]
    rcases hscan : b.scan i with _ | fsstate
    · exact .pure fun w h => ⟨hown, h.1⟩
    have hslot := Backend.hstmt_of_scan hscan
    refine .bind ((endStatement_handles ⟨_, hslot⟩).strengthen_pre ?_)
      fun _ => .pure fun w h => .removed hown hslot h (Backend.hstmt_scan_set hscan none)
    rintro w ⟨h, hready⟩
    rw [handlesReady, hscan] at hready
    exact ⟨h, hready⟩
  | beginModify rel user fdwPrivate =>
    refine .bind (tiberoBeginForeignModify_new rel user fdwPrivate) fun r => .pure ?_
    rintro w ⟨fmstate, rfl, hnew, hworking⟩
    exact .added hown hnew hworking (Backend.hstmt_modify_append b (some fmstate))
  | insert i slot =>
    rw [BackendOp.run]
    rcases hmodify : b.modify i with _ | fmstate
    · exact .pure fun w h => ⟨hown, h.1⟩
    have hslot := Backend.hstmt_of_modify hmodify
    have hinsert := (@StatementRules.execForeignInsert pg _ _ _
      (statementRules_handles env b.Holds) fmstate slot).returned
      (p := fun r => r.1.tbStmt.hstmt = fmstate.tbStmt.hstmt) fun r w w' hrun =>
        StatementRules.insert_hstmt hrun
    refine .bind (hinsert.strengthen_pre ?_) fun r => .pure ?_
    · rintro w ⟨h, hready⟩
      rw [handlesReady, hmodify] at hready
      exact h.working ⟨_, hslot⟩ hready
    · rintro w ⟨hhstmt, h⟩
      refine .stays hown h.kept hslot fun s => ?_
      rw [Backend.hstmt_modify_set hmodify, ← hhstmt]
      rfl
  | endModify i =>
    rw [BackendOp.run]
    rcases hmodify : b.modify i with _ | fmstate
    · exact .pure fun w h => ⟨hown, h.1⟩
    have hslot := Backend.hstmt_of_modify hmodify
    refine .bind ((endStatement_handles ⟨_, hslot⟩).strengthen_pre ?_)
      fun _ => .pure fun w h => .removed hown hslot h (Backend.hstmt_modify_set hmodify none)
    rintro w ⟨h, hready⟩
    rw [handlesReady, hmodify] at hready
    exact ⟨h, hready⟩
  | xactEvent event inErrorRecursionTrouble =>
    have hxact : Proc.Triple (fun w => HandlesKept b.Holds w ∧ xactEndsWhole env event w = true)
        (tbfdwXactCallback env event) (fun _ => HandlesKept b.Holds) fun _ => HandlesKept b.Holds :=
      .of_next fun w h => tbfdwXactCallback_handles event h.1 h.2
    have htrouble : Proc.Triple (fun w => HandlesKept b.Holds w ∧
        handlesReady env (.xactEvent event inErrorRecursionTrouble) b w = true)
        (Proc.modify fun w => { w with inErrorRecursionTrouble } : Fdw Unit)
        (fun _ w => HandlesKept b.Holds w ∧ xactEndsWhole env event w = true)
        fun _ => HandlesKept b.Holds :=
      .modify fun w h => ⟨h.1.same rfl rfl rfl, h.2⟩
    exact .bind htrouble fun _ => .bind hxact fun _ => .pure fun w h => ⟨hown, h⟩
  | subxactEvent =>
    have hsubxact : Proc.Keeps (HandlesKept b.Holds) tbfdwSubxactCallback := by
      refine .read_bind fun _ => .when (.bind (.modify fun w h => h.same rfl rfl rfl) fun _ => ?_)
      exact .modify fun w h => h.same rfl rfl rfl
    exact .bind (hsubxact.strengthen_pre fun _ h => h.1) fun _ =>
      .pure fun w h => ⟨hown, h⟩
  | invalidate cacheid hashvalue =>
    have hinvalidate : Proc.Keeps (HandlesKept b.Holds) (tbfdwInvalCallback cacheid hashvalue) :=
      fun w h => h.invalidated cacheid hashvalue
    exact .bind (hinvalidate.strengthen_pre fun _ h => h.1) fun _ => .pure fun w h => ⟨hown, h⟩

/-- One call, whose error is caught. -/
theorem HandlesOwned.step {op : BackendOp} (h : HandlesOwned b w)
    (hready : handlesReady env op b w = true) (hstep : op.step pg env b w = .ok b' w') :
    HandlesOwned b' w' := by
  have hrun := @HandlesOwned.run pg env _ h.separate op
  rcases BackendOp.step_cases hstep with hok | ⟨e, hraise, rfl⟩
  · exact hrun.apply_ok ⟨h.kept, hready⟩ hok
  · exact ⟨h.separate, hrun.apply_raise ⟨h.kept, hready⟩ hraise⟩

/-- No call of a run uses a handle that was freed before. -/
def NeverUsesFreed (pg : Postgres) (env : Environment) (ops : List BackendOp) (w₀ : World) : Prop :=
  UsesLive (runBackend pg env ops Backend.start w₀).next.trace

/-- **No call uses a handle that was freed**, in every run whose callbacks work on statements
of the connection that their entry has, and which frees connections as a whole. The condition is
about the run only: no return code of the driver is excluded. -/
theorem usesLive_of_ready {ops : List BackendOp} {w₀ : World} (hkeys : w₀.keys = [])
    (htrace : w₀.trace = [])
    (hready : Proc.StepsMeet (fun op b w => handlesReady env op b w = true)
      (BackendOp.step pg env) ops Backend.start w₀) :
    NeverUsesFreed pg env ops w₀ := by
  have hnone : ∀ k, ¬w₀.Live k := by
    rintro k ⟨hk, -⟩
    rw [hkeys] at hk
    cases hk
  have hhandles : w₀.handles = Handles.initial := by
    rw [World.handles, htrace]
    rfl
  have hstart : HandlesOwned Backend.start w₀ := by
    refine ⟨?_, ?_, fun k hk => (hnone k hk).elim, fun k hk => (hnone k hk).elim,
      fun k _ hk => (hnone k hk).elim, ?_, fun _ k _ _ hk => (hnone k hk).elim, ?_⟩
    · rintro (i | i) s' h ⟨⟩
    · rw [htrace]
      rintro n i ⟨⟩
    · intro h hopen
      rw [hhandles] at hopen
      cases hopen
    · rintro h ⟨i | i, ⟨⟩⟩
  refine Proc.fold_next (I := HandlesOwned) (J := fun w => UsesLive w.trace)
    (fun op b w b' w' hready h hstep => h.step hready hstep) ?_ (fun b w h => h.kept.used) hready
    hstart
  intro op b w e w' _ _ hraise
  obtain ⟨b', w'', hstep⟩ := @BackendOp.step_returns pg env op b w
  rw [hraise] at hstep
  cases hstep

end

theorem UsesLive.not_of_any {calls : List Issued} (n : Nat)
    (hn : (calls[n]?).any (fun i => !i.call.onLive (Handles.ofTrace (calls.take n))) = true) :
    ¬UsesLive calls := by
  intro h
  rcases hi : calls[n]? with _ | i
  · rw [hi] at hn
    cases hn
  · rw [hi, Option.any_some, h n i hi] at hn
    cases hn

/-- A scan of the table with one text column. -/
def textTableScan : BackendOp := .beginScan textTable .sample twoAtATimeScan

/-- Two scans of one connection, one after the other is ended. -/
theorem twoScans_usesLive :
    NeverUsesFreed .small (.delivering twoRows)
      [textTableScan, textTableScan, .iterate 0, .iterate 1, .endScan 0, .iterate 1, .endScan 1,
        .xactEvent .preCommit false] World.started :=
  usesLive_of_ready rfl rfl (by decide +kernel)

/-- The first scan goes on after the second one has disconnected an invalidated
connection. -/
theorem invalidatedScan_usesFreed :
    ¬NeverUsesFreed .small (.delivering twoRows)
      [textTableScan, .invalidate .foreignServerOid 0, textTableScan, .iterate 0] World.started :=
  UsesLive.not_of_any 29 (by decide +kernel)

/-- A commit frees the connection and fails to free its environment: the error that is
reported disconnects the connection again. -/
example :
    ¬NeverUsesFreed .small
      { Environment.delivering twoRows with rc := fun n => if n = 19 then -1 else SQL_SUCCESS }
      [textTableScan, .iterate 0, .endScan 0, .invalidate .foreignServerOid 0,
        .xactEvent .preCommit false] World.started :=
  UsesLive.not_of_any 20 (by decide +kernel)

end TiberoFdw
