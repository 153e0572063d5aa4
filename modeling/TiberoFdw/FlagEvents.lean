import TiberoFdw.Callbacks
import TiberoFdw.OneEntry
import TiberoFdw.SleepFlag

/-!
# What the callbacks do to the flag

Between the two settings of the flag, nothing in a callback touches it but the
invalidations that are delivered meanwhile (`FlagTracked`). Three layers:

* the callbacks of the planner (`FdwRoutine`): what they compute, between the two settings;
* one call: it does to the flag what its events do (`PlannerOp.run_events`,
  `BackendOp.run_events`);
* any number of calls, the planner's and the executor's in any order (`runCalls_events`), so
  that the flag is off between them when every event keeps the bracket.
-/

namespace TiberoFdw

/-- The invalidations that the lookups deliver, from the `n`-th on. -/
def Environment.delivered (env : Environment) (n count : Nat) : List (CacheId × Nat) :=
  (List.range' n count).flatMap env.deliveries

/-- The flag was switched on after `n` lookups, and is off again if an invalidation was
delivered since. -/
def FlagTracked (env : Environment) (n : Nat) (w : World) : Prop :=
  ∃ count, w.lookups = n + count ∧ w.useSleepOnSig = (env.delivered n count).isEmpty

/-- The flag is off. -/
def SwitchedOff (w : World) : Prop := w.useSleepOnSig = false

/-! ## The callbacks of the planner -/

/-- A callback of the planner: it runs in the world, and fails as the deparser does. -/
abbrev Planner (α : Type) := Proc World DeparseError α

/-- A part of a planner callback that is not the deparser's. -/
def Fdw.inPlanner {α : Type} (m : Fdw α) : Planner α := Proc.mapError DeparseError.ereport m

/-- What a planner callback does between switching the flag on and off; an error leaves it on. -/
def betweenSettings {α : Type} (body : Planner α) : Planner α := do
  setSleepOnSigOn.inPlanner
  let a ← body
  setSleepOnSigOff.inPlanner
  pure a

namespace FdwRoutine

/-- `tiberoGetForeignRelSize`, with the lookup of the server. -/
def getForeignRelSize (pg : Postgres) (env : Environment) (serverid : Oid)
    (tableOptions : List DefElem) (baserel : RelOptInfo) : Planner TbFdwRelationInfo :=
  betweenSettings do
    let server ← (getForeignServer env serverid).inPlanner
    Proc.ofExcept
      ((tiberoGetForeignRelSize pg server tableOptions baserel).mapError DeparseError.ereport)

/-- `tiberoGetForeignPaths`: the one path it adds consists of cost estimates. -/
def getForeignPaths : Planner Unit := betweenSettings (pure ())

/-- `tiberoGetForeignPlan`. -/
def getForeignPlan (pg : Postgres) (root : PlannerInfo) (foreignrel : RelOptInfo)
    (fpinfo : TbFdwRelationInfo) (scanClauses : List RestrictInfo) : Planner ForeignScan :=
  betweenSettings do
    let w ← Proc.read
    Proc.ofExcept (tiberoGetForeignPlan pg root foreignrel fpinfo w.isolationUsesXactSnapshot
      scanClauses)

/-- `tiberoGetForeignJoinPaths`: `foreign_join_ok` is false, and no path is added. -/
def getForeignJoinPaths : Planner Unit := betweenSettings (pure ())

/-- `tiberoPlanForeignModify`, which returns for anything but an INSERT before it touches the
flag. -/
def planForeignModify (context : DeparseContext) (operation : CmdType) (resultRelation : Nat) :
    Planner (Option FdwModifyPrivate) :=
  if operation ≠ .insert then pure none
  else
    betweenSettings (Proc.ofExcept
      (tiberoPlanForeignModify context operation resultRelation RemoteSqlInfo.start).toExcept)

end FdwRoutine

/-- What the planner may call. -/
inductive PlannerOp : Type where
  | getForeignRelSize (serverid : Oid) (tableOptions : List DefElem) (baserel : RelOptInfo)
  | getForeignPaths
  | getForeignPlan (root : PlannerInfo) (foreignrel : RelOptInfo) (fpinfo : TbFdwRelationInfo)
      (scanClauses : List RestrictInfo)
  | getForeignJoinPaths
  | planForeignModify (context : DeparseContext) (operation : CmdType) (resultRelation : Nat)

/-- One call of the planner; its result goes into the plan. -/
def PlannerOp.run (pg : Postgres) (env : Environment) : PlannerOp → Planner Unit
  | .getForeignRelSize serverid tableOptions baserel => do
    let _ ← FdwRoutine.getForeignRelSize pg env serverid tableOptions baserel
    pure ()
  | .getForeignPaths => FdwRoutine.getForeignPaths
  | .getForeignPlan root foreignrel fpinfo scanClauses => do
    let _ ← FdwRoutine.getForeignPlan pg root foreignrel fpinfo scanClauses
    pure ()
  | .getForeignJoinPaths => FdwRoutine.getForeignJoinPaths
  | .planForeignModify context operation resultRelation => do
    let _ ← FdwRoutine.planForeignModify context operation resultRelation
    pure ()

/-- The callback that a call of the planner runs, and whether it returns at once. -/
def PlannerOp.callback : PlannerOp → FdwCallback × Bool
  | .getForeignRelSize _ _ _ => (.getForeignRelSize, false)
  | .getForeignPaths => (.getForeignPaths, false)
  | .getForeignPlan _ _ _ _ => (.getForeignPlan, false)
  | .getForeignJoinPaths => (.getForeignJoinPaths, false)
  | .planForeignModify _ operation _ => (.planForeignModify, operation ≠ .insert)

section

variable {pg : Postgres} {env : Environment} {w v : World} {key : ConnCacheKey} {n : Nat}

/-! ## Inside a callback -/

theorem Environment.delivered_succ (env : Environment) (n count : Nat) :
    env.delivered n (count + 1) = env.delivered n count ++ env.deliveries (n + count) := by
  rw [Environment.delivered, List.range'_concat, List.flatMap_append, Nat.one_mul]
  simp [Environment.delivered]

theorem FlagTracked.on (h : w.lookups = n) : FlagTracked env n { w with useSleepOnSig := true } :=
  ⟨0, h, rfl⟩

theorem setSleepOnSigOn_flag : Proc.Triple (·.lookups = n) setSleepOnSigOn
    (fun _ => FlagTracked env n) (fun _ => FlagTracked env n) :=
  .modify fun _ h => FlagTracked.on h

/-- What is delivered switches the flag off and counts no lookup. -/
theorem deliveries_flag (l : List (CacheId × Nat)) (w : World) :
    (Proc.forEach l (fun (cacheid, hashvalue) => tbfdwInvalCallback cacheid hashvalue)
        w).next.lookups = w.lookups ∧
      (Proc.forEach l (fun (cacheid, hashvalue) => tbfdwInvalCallback cacheid hashvalue)
        w).next.useSleepOnSig = (w.useSleepOnSig && l.isEmpty) := by
  induction l generalizing w with
  | nil => exact ⟨rfl, (Bool.and_true _).symm⟩
  | cons d rest ih =>
    obtain ⟨hlookups, hflag⟩ := ih (w.invalidated d.1 d.2)
    refine ⟨hlookups, hflag.trans ?_⟩
    rw [List.isEmpty_cons, Bool.and_false]
    rfl

theorem getForeignServer_flag (serverid : Oid) :
    Proc.Keeps (FlagTracked env n) (getForeignServer env serverid) := by
  refine .of_next ?_
  rintro w ⟨count, hcount, hflag⟩
  obtain ⟨hlookups, hdelivered⟩ := deliveries_flag (env.deliveries w.lookups)
    { w with lookups := w.lookups + 1 }
  rw [getForeignServer, Proc.read_bind_run, Proc.modify_bind_run, Proc.bind_pure_next]
  refine ⟨count + 1, ?_, ?_⟩
  · rw [hlookups, hcount, Nat.add_assoc]
  · rw [hdelivered, env.delivered_succ, hcount, hflag]
    rcases env.delivered n count with _ | _ <;> rfl

theorem callRules_flag (env : Environment) (key : ConnCacheKey) (n : Nat) :
    CallRules env key (FlagTracked env n) :=
  ⟨fun _ _ _ _ h => h, fun _ _ _ h => h⟩

theorem tbCall_flag (key : ConnCacheKey) (call : SqlCall) :
    Proc.Keeps (FlagTracked env n) (tbCall env key call) :=
  .bind (fun _ h => h) fun _ => (callRules_flag env key n).checkReturn _ _

theorem sessionRules_flag (pg : Postgres) (env : Environment) (user : UserMapping) (n : Nat) :
    SessionRules pg env key user (FlagTracked env n) where
  setConn _ _ _ h := h
  issued _ _ _ _ h := h
  report := (callRules_flag env key n).dropConnection
  disconnect := (callRules_flag env key n).disconnectTbServer
  makeTbConnection := by
    have hoptions : ∀ options params, Proc.Keeps (FlagTracked env n)
        (applyConnectionOptions pg key options params) :=
      applyConnectionOptions_keeps (fun _ _ h => h) pg
    refine .strengthen_pre (.bind (getForeignServer_flag _) fun server => ?_) fun _ h => h.1
    refine .bind (.modify fun _ h => h) fun _ => .bind (hoptions _ _) fun params => ?_
    exact (callRules_flag env key n).connectTbServer _

theorem getTbStatement_flag (user : UserMapping) (tbStmt : TbStatement) (useFbQuery : Bool) :
    Proc.Keeps (FlagTracked env n) (getTbStatement pg env user tbStmt useFbQuery) := by
  refine .of_next fun w h =>
    (sessionRules_flag pg env user n).getTbStatement_next (fun _ _ h => h) ?_ tbStmt useFbQuery
  rw [World.entered]
  split_ifs <;> exact h

theorem workRules_flag (env : Environment) (n : Nat) :
    WorkRules env (FlagTracked env n) fun _ _ => FlagTracked env n where
  inv _ _ _ h := h
  issued _ _ _ _ _ _ h := h
  report _ key := (callRules_flag env key n).dropConnection

theorem xactCallbackEntry_flag (event : XactEvent) (key : ConnCacheKey) :
    Proc.Keeps (FlagTracked env n) (xactCallbackEntry env event key) := by
  have hend : ∀ completionType,
      Proc.Keeps (FlagTracked env n) (endRemoteXact env key completionType) := by
    refine fun _ => .read_bind fun w => .when (.bind ?_ fun _ => ?_)
    · exact .read_bind fun w => .bind (tbCall_flag _ _) fun _ => .modify fun _ h => h
    · exact .read_bind fun w => .when (callRules_flag env key n).disconnectTbServer
  refine .read_bind fun w => .when ?_
  cases event with
  | parallelPreCommit | preCommit => exact hend .commit
  | prePrepare | parallelCommit | commit | prepare => exact .pure _
  | parallelAbort | abort =>
    dsimp only
    split_ifs
    · exact .modify fun _ h => h
    · exact hend .rollback

/-! ## One callback -/

theorem beginForeignScan_flag (rel : Relation) (user : UserMapping) (fsplan : ForeignScan) :
    Proc.Triple (·.lookups = n) (tiberoBeginForeignScan pg env rel user false fsplan)
      (fun _ => SwitchedOff) (fun _ => FlagTracked env n) := by
  have hoff : ∀ (_ : Handle) (_ : ConnCacheKey) (w : World), FlagTracked env n w →
      SwitchedOff { w with useSleepOnSig := false } := fun _ _ _ _ => rfl
  refine .weaken ((workRules_flag env n).checked.beginForeignScan (fun _ h => FlagTracked.on h) hoff
    (getTbStatement_flag user TbStatement.zeroed fsplan.useFbQuery) rel) (fun _ h => h) ?_
    fun _ _ h => h
  rintro r w ⟨fsstate, -, h⟩
  exact h

theorem iterateForeignScan_flag (fsstate : TbFdwScanState) :
    Proc.Triple (·.lookups = n) (tiberoIterateForeignScan pg env fsstate) (fun _ => SwitchedOff)
      (fun _ => FlagTracked env n) :=
  (workRules_flag env n).checked.iterateForeignScan fsstate (fun _ h => FlagTracked.on h)
    fun _ _ => rfl

theorem endForeignScan_flag (fsstate : TbFdwScanState) :
    Proc.Triple (·.lookups = n) (tiberoEndForeignScan env (some fsstate)) (fun _ => SwitchedOff)
      (fun _ => FlagTracked env n) :=
  .bind setSleepOnSigOn_flag fun _ => .bind (tbCall_flag _ _) fun _ => .modify fun _ _ => rfl

theorem beginForeignModify_flag (rel : Relation) (user : UserMapping)
    (fdwPrivate : FdwModifyPrivate) :
    Proc.Triple (·.lookups = n) (tiberoBeginForeignModify pg env rel user false fdwPrivate)
      (fun _ => SwitchedOff) (fun _ => FlagTracked env n) := by
  rw [tiberoBeginForeignModify, if_neg Bool.false_ne_true]
  refine .bind setSleepOnSigOn_flag fun _ => .bind (getForeignServer_flag _) fun _ => ?_
  refine .bind (getTbStatement_flag _ _ _) fun tbStmt => .bind (tbCall_flag _ _) fun _ => ?_
  exact .bind (.modify fun _ _ => rfl) fun _ => .pure fun _ h => h

theorem execForeignInsert_flag (fmstate : TbFdwExecState) (slot : TupleTableSlot) :
    Proc.Triple (·.lookups = n) (tiberoExecForeignInsert pg env fmstate slot)
      (fun _ => SwitchedOff) (fun _ => FlagTracked env n) :=
  (workRules_flag env n).checked.execForeignInsert fmstate slot (fun _ h => FlagTracked.on h)
    fun _ _ => rfl

theorem endForeignModify_flag (fmstate : TbFdwExecState) :
    Proc.Triple (·.lookups = n) (tiberoEndForeignModify env (some fmstate)) (fun _ => SwitchedOff)
      (fun _ => FlagTracked env n) :=
  .bind setSleepOnSigOn_flag fun _ => .bind (tbCall_flag _ _) fun _ => .modify fun _ _ => rfl

theorem xactCallback_flag (event : XactEvent) :
    Proc.Triple (fun w => w.lookups = n ∧ w.xactGotConnection = true)
      (tbfdwXactCallback env event) (fun _ => SwitchedOff) (fun _ => FlagTracked env n) := by
  refine .read_bind fun w₀ => ?_
  rintro w ⟨⟨hlookups, hgot⟩, rfl⟩
  rw [hgot]
  have hcallback : Proc.Triple (·.lookups = n) (do
      setSleepOnSigOn
      Proc.forEach w.keys (xactCallbackEntry env event)
      Proc.modify fun w => { w with xactGotConnection := false }
      setSleepOnSigOff : Fdw Unit) (fun _ => SwitchedOff) (fun _ => FlagTracked env n) := by
    refine .bind setSleepOnSigOn_flag fun _ => ?_
    refine Proc.Triple.bind (.forEach fun key _ => xactCallbackEntry_flag event key) fun _ => ?_
    exact fun w _ => rfl
  exact hcallback w hlookups

theorem subxactCallback_flag :
    Proc.Triple (fun w => w.lookups = n ∧ w.xactGotConnection = true) tbfdwSubxactCallback
      (fun _ => SwitchedOff) (fun _ => FlagTracked env n) := by
  refine .read_bind fun w₀ => ?_
  rintro w ⟨⟨-, hgot⟩, rfl⟩
  rw [hgot]
  exact rfl

/-! ## One callback of the planner -/

theorem betweenSettings_flag {α : Type} {body : Planner α}
    (hbody : Proc.Keeps (FlagTracked env n) body) :
    Proc.Triple (·.lookups = n) (betweenSettings body) (fun _ => SwitchedOff)
      (fun _ => FlagTracked env n) := by
  refine .bind (.mapError setSleepOnSigOn_flag fun _ _ h => h) fun _ => .bind hbody fun a => ?_
  have hoff : Proc.Triple (FlagTracked env n) setSleepOnSigOff (fun _ => SwitchedOff)
      (fun _ => FlagTracked env n) := .modify fun _ _ => rfl
  exact .bind (.mapError hoff fun _ _ h => h) fun _ => .pure fun _ h => h

theorem getForeignRelSize_flag (serverid : Oid) (tableOptions : List DefElem)
    (baserel : RelOptInfo) :
    Proc.Triple (·.lookups = n)
      (FdwRoutine.getForeignRelSize pg env serverid tableOptions baserel)
      (fun _ => SwitchedOff) (fun _ => FlagTracked env n) := by
  refine betweenSettings_flag (.bind ?_ fun server => ?_)
  · exact .mapError (getForeignServer_flag serverid) fun _ _ h => h
  · exact .ofExcept (fun _ _ h => h) fun _ _ h => h

theorem getForeignPlan_flag (root : PlannerInfo) (foreignrel : RelOptInfo)
    (fpinfo : TbFdwRelationInfo) (scanClauses : List RestrictInfo) :
    Proc.Triple (·.lookups = n)
      (FdwRoutine.getForeignPlan pg root foreignrel fpinfo scanClauses)
      (fun _ => SwitchedOff) (fun _ => FlagTracked env n) :=
  betweenSettings_flag (.read_bind fun _ => .ofExcept (fun _ _ h => h) fun _ _ h => h)

theorem planForeignModify_flag (context : DeparseContext) (resultRelation : Nat) :
    Proc.Triple (·.lookups = n) (FdwRoutine.planForeignModify context .insert resultRelation)
      (fun _ => SwitchedOff) (fun _ => FlagTracked env n) := by
  rw [FdwRoutine.planForeignModify, if_neg (by decide)]
  exact betweenSettings_flag (.ofExcept (fun _ _ h => h) fun _ _ h => h)

theorem PlannerOp.callback_switchesOn (op : PlannerOp) :
    op.callback.1.switchesOn op.callback.2 = !op.callback.2 := by
  cases op <;> rfl

variable (pg env) in
/-- The flag after a callback of the planner that switches it on. -/
theorem PlannerOp.run_flag {op : PlannerOp} (hop : op.callback.2 = false) :
    Proc.Triple (·.lookups = n) (op.run pg env) (fun _ => SwitchedOff)
      (fun _ => FlagTracked env n) := by
  cases op with
  | getForeignRelSize serverid tableOptions baserel =>
    exact .bind (getForeignRelSize_flag serverid tableOptions baserel) fun _ => .pure fun _ h => h
  | getForeignPaths | getForeignJoinPaths => exact betweenSettings_flag (.pure ())
  | getForeignPlan root foreignrel fpinfo scanClauses =>
    exact .bind (getForeignPlan_flag root foreignrel fpinfo scanClauses) fun _ =>
      .pure fun _ h => h
  | planForeignModify context operation resultRelation =>
    obtain rfl : operation = .insert := of_decide_eq_false hop |> not_not.mp
    exact .bind (planForeignModify_flag context resultRelation) fun _ => .pure fun _ h => h

variable (pg env) in
/-- A command other than an INSERT is planned without the flag. -/
theorem PlannerOp.run_idle {op : PlannerOp} (hop : op.callback.2 = true) (w : World) :
    op.run pg env w = .ok () w := by
  cases op with
  | getForeignRelSize | getForeignPaths | getForeignPlan | getForeignJoinPaths => cases hop
  | planForeignModify context operation resultRelation =>
    have hother : operation ≠ .insert := of_decide_eq_true hop
    rw [PlannerOp.run, FdwRoutine.planForeignModify, if_pos hother]
    rfl

/-! ## One call -/

/-- The callback that a call runs, and whether it returns at once. -/
def BackendOp.callback? (b : Backend) (w : World) : BackendOp → Option (FdwCallback × Bool)
  | .startTransaction _ | .startStatement _ => none
  | .beginScan _ _ _ => some (.beginForeignScan, false)
  | .iterate i => (b.scan i).map fun _ => (.iterateForeignScan, false)
  | .reScan i => (b.scan i).map fun _ => (.reScanForeignScan, false)
  | .endScan i => (b.scan i).map fun _ => (.endForeignScan, false)
  | .beginModify _ _ _ => some (.beginForeignModify, false)
  | .insert i _ => (b.modify i).map fun _ => (.execForeignInsert, false)
  | .endModify i => (b.modify i).map fun _ => (.endForeignModify, false)
  | .xactEvent _ _ => some (.xactCallback, !w.xactGotConnection)
  | .subxactEvent => some (.subxactCallback, !w.xactGotConnection)
  | .invalidate _ _ => some (.invalCallback, false)

theorem BackendOp.callback_switchesOn {op : BackendOp} {b : Backend} {callback : FdwCallback}
    {returnsAtOnce : Bool} (hop : op.callback? b w = some (callback, returnsAtOnce)) :
    callback.switchesOn returnsAtOnce = !returnsAtOnce := by
  cases op with
  | startTransaction | startStatement => cases hop
  | iterate i | reScan i | endScan i | insert i | endModify i =>
    obtain ⟨_, -, hop⟩ := Option.map_eq_some_iff.mp hop
    cases hop
    rfl
  | beginScan | beginModify | xactEvent | subxactEvent | invalidate =>
    cases hop
    rfl

variable (pg env) in
/-- The flag after a callback that switches it on: an error leaves it as it was. -/
theorem BackendOp.run_flag {op : BackendOp} {b : Backend} {callback : FdwCallback}
    (hop : op.callback? b w = some (callback, false)) :
    Proc.Triple
      (fun w₁ => w₁.lookups = w.lookups ∧ w₁.xactGotConnection = w.xactGotConnection)
      (op.run pg env b) (fun _ => SwitchedOff) (fun _ => FlagTracked env w.lookups) := by
  have hcall : ∀ {α : Type} {m : Fdw α} {f : α → Fdw Backend},
      Proc.Triple (·.lookups = w.lookups) m (fun _ => SwitchedOff)
        (fun _ => FlagTracked env w.lookups) →
      (∀ a, Proc.Triple SwitchedOff (f a) (fun _ => SwitchedOff)
        fun _ => FlagTracked env w.lookups) →
      Proc.Triple
        (fun w₁ => w₁.lookups = w.lookups ∧ w₁.xactGotConnection = w.xactGotConnection)
        (m >>= f) (fun _ => SwitchedOff) (fun _ => FlagTracked env w.lookups) :=
    fun hm hf => .bind (hm.strengthen_pre fun _ h => h.1) hf
  cases op with
  | startTransaction | startStatement => cases hop
  | beginScan rel user fsplan =>
    exact hcall (beginForeignScan_flag rel user fsplan) fun _ => .pure fun _ h => h
  | iterate i =>
    obtain ⟨fsstate, hscan, -⟩ := Option.map_eq_some_iff.mp hop
    rw [BackendOp.run, hscan]
    exact hcall (iterateForeignScan_flag fsstate) fun _ => .pure fun _ h => h
  | reScan i =>
    obtain ⟨fsstate, hscan, -⟩ := Option.map_eq_some_iff.mp hop
    rw [BackendOp.run, hscan]
    exact fun _ _ => rfl
  | endScan i =>
    obtain ⟨fsstate, hscan, -⟩ := Option.map_eq_some_iff.mp hop
    rw [BackendOp.run, hscan]
    exact hcall (endForeignScan_flag fsstate) fun _ => .pure fun _ h => h
  | beginModify rel user fdwPrivate =>
    exact hcall (beginForeignModify_flag rel user fdwPrivate) fun _ => .pure fun _ h => h
  | insert i slot =>
    obtain ⟨fmstate, hmodify, -⟩ := Option.map_eq_some_iff.mp hop
    rw [BackendOp.run, hmodify]
    exact hcall (execForeignInsert_flag fmstate slot) fun _ => .pure fun _ h => h
  | endModify i =>
    obtain ⟨fmstate, hmodify, -⟩ := Option.map_eq_some_iff.mp hop
    rw [BackendOp.run, hmodify]
    exact hcall (endForeignModify_flag fmstate) fun _ => .pure fun _ h => h
  | xactEvent event trouble =>
    obtain ⟨-, hgot⟩ := Prod.mk.inj (Option.some.inj hop)
    rw [Bool.not_eq_false'] at hgot
    rw [hgot]
    exact .bind (.modify fun _ h => h) fun _ =>
      .bind (xactCallback_flag event) fun _ => .pure fun _ h => h
  | subxactEvent =>
    obtain ⟨-, hgot⟩ := Prod.mk.inj (Option.some.inj hop)
    rw [Bool.not_eq_false'] at hgot
    rw [hgot]
    exact .bind subxactCallback_flag fun _ => .pure fun _ h => h
  | invalidate cacheid hashvalue => exact fun _ _ => rfl

variable (pg env) in
/-- Any other call leaves the flag alone. -/
theorem BackendOp.run_idle (op : BackendOp) {b : Backend}
    (hop : ∀ callback, op.callback? b w ≠ some (callback, false)) :
    ∃ b' w', op.run pg env b w = .ok b' w' ∧ w'.useSleepOnSig = w.useSleepOnSig ∧
      w'.lookups = w.lookups := by
  cases op with
  | startTransaction | startStatement => exact ⟨_, _, rfl, rfl, rfl⟩
  | beginScan | beginModify | invalidate => exact (hop _ rfl).elim
  | iterate i | reScan i | endScan i =>
    rcases hscan : b.scan i with _ | fsstate
    · rw [BackendOp.run, hscan]
      exact ⟨b, w, rfl, rfl, rfl⟩
    · rw [BackendOp.callback?, hscan] at hop
      exact (hop _ rfl).elim
  | insert i | endModify i =>
    rcases hmodify : b.modify i with _ | fmstate
    · rw [BackendOp.run, hmodify]
      exact ⟨b, w, rfl, rfl, rfl⟩
    · rw [BackendOp.callback?, hmodify] at hop
      exact (hop _ rfl).elim
  | xactEvent event trouble =>
    rcases hgot : w.xactGotConnection with _ | _
    · refine ⟨b, { w with inErrorRecursionTrouble := trouble }, ?_, rfl, rfl⟩
      have hcallback : tbfdwXactCallback env event { w with inErrorRecursionTrouble := trouble } =
          .ok () { w with inErrorRecursionTrouble := trouble } := by
        rw [tbfdwXactCallback, Proc.read_bind_run, hgot, Proc.when_false, Proc.pure_run]
      rw [BackendOp.run, Proc.modify_bind_run, Proc.bind_of_ok hcallback, Proc.pure_run]
    · rw [BackendOp.callback?, hgot] at hop
      exact (hop _ rfl).elim
  | subxactEvent =>
    rcases hgot : w.xactGotConnection with _ | _
    · refine ⟨b, w, ?_, rfl, rfl⟩
      have hcallback : tbfdwSubxactCallback w = .ok () w := by
        rw [tbfdwSubxactCallback, Proc.read_bind_run, hgot, Proc.when_false, Proc.pure_run]
      rw [BackendOp.run, Proc.bind_of_ok hcallback, Proc.pure_run]
    · rw [BackendOp.callback?, hgot] at hop
      exact (hop _ rfl).elim

/-- The entries and exits of a callback. -/
def callbackEvents (callback : FdwCallback) (returnsAtOnce : Bool)
    (invalidations : List (CacheId × Nat)) (returned : Bool) : List CallbackEvent :=
  .enter callback returnsAtOnce ::
    (invalidations.flatMap (fun _ => [.enter .invalCallback false, .exit]) ++
      [if returned then .exit else .error 1])

/-- The entries and exits of a call. -/
def BackendOp.events (pg : Postgres) (env : Environment) (op : BackendOp) (b : Backend)
    (w : World) : List CallbackEvent :=
  match op.callback? b w with
  | none => []
  | some (callback, returnsAtOnce) =>
    let w' := (op.run pg env b w).next
    callbackEvents callback returnsAtOnce (env.delivered w.lookups (w'.lookups - w.lookups))
      (op.run pg env b w).isOk

/-- The invalidations inside a callback. -/
theorem invalidations_run (l : List (CacheId × Nat)) (running : List RunningCallback) (v : World) :
    Proc.fold CallbackEvent.run (l.flatMap fun _ => [.enter .invalCallback false, .exit])
        running v =
      .ok running { v with useSleepOnSig := v.useSleepOnSig && l.isEmpty } := by
  induction l generalizing v with
  | nil => rw [List.isEmpty_nil, Bool.and_true, List.flatMap_nil, Proc.fold, Proc.pure_run]
  | cons d rest ih =>
    rw [List.flatMap_cons, List.isEmpty_cons, Bool.and_false]
    exact ih { v with useSleepOnSig := false }

theorem callbackEvents_run {callback : FdwCallback} (hon : callback.switchesOn false = true)
    (invalidations : List (CacheId × Nat)) (returned : Bool) (v : World) :
    Proc.fold CallbackEvent.run (callbackEvents callback false invalidations returned) [] v =
      .ok [] { v with useSleepOnSig := !returned && invalidations.isEmpty } := by
  have henter : CallbackEvent.run (.enter callback false) [] v =
      .ok [⟨callback, true⟩] { v with useSleepOnSig := true } := by
    rw [CallbackEvent.run, hon]
    rfl
  rw [callbackEvents, Proc.fold, Proc.bind_of_ok henter,
    Proc.fold_append (invalidations_run invalidations _ _), Bool.true_and]
  rcases returned with _ | _ <;> rfl

theorem callbackEvents_idle {callback : FdwCallback} (hoff : callback.switchesOn true = false)
    (v : World) : Proc.fold CallbackEvent.run (callbackEvents callback true [] true) [] v =
      .ok [] v := by
  have henter : CallbackEvent.run (.enter callback true) [] v = .ok [⟨callback, false⟩] v := by
    rw [CallbackEvent.run, hoff]
    rfl
  exact Proc.bind_of_ok henter

/-- A call that switches the flag on does to it what its events do. -/
theorem trackedCall_events {ε α : Type} {m : Proc World ε α} {callback : FdwCallback}
    (hon : callback.switchesOn false = true)
    (hm : Proc.Triple (· = w) m (fun _ => SwitchedOff) (fun _ => FlagTracked env w.lookups)) :
    Proc.fold CallbackEvent.run
        (callbackEvents callback false
          (env.delivered w.lookups ((m w).next.lookups - w.lookups)) (m w).isOk) [] v =
      .ok [] { v with useSleepOnSig := (m w).next.useSleepOnSig } := by
  refine (callbackEvents_run hon _ _ v).trans ?_
  have hcall := hm w rfl
  rcases hrun : m w with ⟨a, w'⟩ | ⟨e, w'⟩ <;> rw [hrun] at hcall
  · -- the exit switches the flag off
    have hoff : w'.useSleepOnSig = false := hcall
    rw [Outcome.isOk_ok, Bool.not_true, Bool.false_and, Outcome.next_ok, hoff]
  · -- an error leaves it as the invalidations have
    obtain ⟨count, hcount, hdelivered⟩ := hcall
    rw [Outcome.isOk_raise, Bool.not_false, Bool.true_and, Outcome.next_raise, hcount,
      Nat.add_sub_cancel_left, hdelivered]

/-- A call whose callback returns at once leaves the flag alone, and so do its events. -/
theorem idleCall_events {ε α : Type} {m : Proc World ε α} {callback : FdwCallback} {a : α}
    {w' : World} (hoff : callback.switchesOn true = false) (hrun : m w = .ok a w')
    (hsame : w'.useSleepOnSig = w.useSleepOnSig) (hlookups : w'.lookups = w.lookups)
    (hflag : v.useSleepOnSig = w.useSleepOnSig) :
    Proc.fold CallbackEvent.run
        (callbackEvents callback true
          (env.delivered w.lookups ((m w).next.lookups - w.lookups)) (m w).isOk) [] v =
      .ok [] { v with useSleepOnSig := (m w).next.useSleepOnSig } := by
  have hnone : env.delivered w.lookups (w'.lookups - w.lookups) = [] := by
    rw [hlookups, Nat.sub_self]
    rfl
  rw [hrun, Outcome.next_ok, hnone, Outcome.isOk_ok, hsame, ← hflag]
  exact callbackEvents_idle hoff v

variable (pg env) in
/-- **A call of the executor does to the flag what its events do**: the callback is entered,
each invalidation that a lookup delivers comes and goes inside it, and it is left by its return
or by its error. -/
theorem BackendOp.run_events (op : BackendOp) (b : Backend)
    (hflag : v.useSleepOnSig = w.useSleepOnSig) :
    Proc.fold CallbackEvent.run (op.events pg env b w) [] v =
      .ok [] { v with useSleepOnSig := (op.run pg env b w).next.useSleepOnSig } := by
  rcases hop : op.callback? b w with _ | ⟨callback, returnsAtOnce⟩
  · -- no callback runs
    obtain ⟨b', w', hrun, hsame, -⟩ := op.run_idle pg env fun callback h => by
      cases hop.symm.trans h
    rw [BackendOp.events, hop, hrun, Outcome.next_ok, hsame, ← hflag]
    rfl
  have hon := BackendOp.callback_switchesOn hop
  rw [BackendOp.events, hop]
  rcases returnsAtOnce with _ | _
  · refine trackedCall_events hon ((BackendOp.run_flag pg env hop).strengthen_pre ?_)
    rintro _ rfl
    exact ⟨rfl, rfl⟩
  · -- the callback returns at once
    obtain ⟨b', w', hrun, hsame, hlookups⟩ := op.run_idle pg env fun callback h => by
      cases hop.symm.trans h
    exact idleCall_events hon hrun hsame hlookups hflag

/-- The entries and exits of a call of the planner. -/
def PlannerOp.events (pg : Postgres) (env : Environment) (op : PlannerOp) (w : World) :
    List CallbackEvent :=
  let w' := (op.run pg env w).next
  callbackEvents op.callback.1 op.callback.2
    (env.delivered w.lookups (w'.lookups - w.lookups)) (op.run pg env w).isOk

variable (pg env) in
/-- **A call of the planner does to the flag what its events do**: its five callbacks switch the
flag as the table of the callbacks says. -/
theorem PlannerOp.run_events (op : PlannerOp) (hflag : v.useSleepOnSig = w.useSleepOnSig) :
    Proc.fold CallbackEvent.run (op.events pg env w) [] v =
      .ok [] { v with useSleepOnSig := (op.run pg env w).next.useSleepOnSig } := by
  have hon := op.callback_switchesOn
  rw [PlannerOp.events]
  rcases hop : op.callback.2 with _ | _ <;> rw [hop] at hon
  · refine trackedCall_events hon ((PlannerOp.run_flag pg env hop).strengthen_pre ?_)
    rintro _ rfl
    rfl
  · exact idleCall_events hon (op.run_idle pg env hop w) rfl rfl hflag

/-! ## Runs -/

/-- What PostgreSQL may call, while it plans and while it executes. -/
inductive FdwCall : Type where
  | plan (op : PlannerOp)
  | execute (op : BackendOp)

/-- One call; an error ends it, and the backend goes on. -/
def FdwCall.step (pg : Postgres) (env : Environment) : FdwCall → Backend → Fdw Backend
  | .plan op, b => fun w => .ok b (op.run pg env w).next
  | .execute op, b => op.step pg env b

/-- Any number of calls. -/
def runCalls (pg : Postgres) (env : Environment) (calls : List FdwCall) (b : Backend) :
    Fdw Backend :=
  Proc.fold (FdwCall.step pg env) calls b

/-- The entries and exits of a call. -/
def FdwCall.events (pg : Postgres) (env : Environment) (b : Backend) (w : World) :
    FdwCall → List CallbackEvent
  | .plan op => op.events pg env w
  | .execute op => op.events pg env b w

/-- The entries and exits of any number of calls. -/
def callEvents (pg : Postgres) (env : Environment) :
    List FdwCall → Backend → World → List CallbackEvent
  | [], _, _ => []
  | call :: rest, b, w =>
    call.events pg env b w ++
      match call.step pg env b w with
      | .ok b' w' => callEvents pg env rest b' w'
      | .raise _ _ => []

variable (pg env) in
/-- A step returns, and does to the flag what its events do. -/
theorem FdwCall.step_events (call : FdwCall) (b : Backend)
    (hflag : v.useSleepOnSig = w.useSleepOnSig) :
    ∃ b' w', call.step pg env b w = .ok b' w' ∧
      Proc.fold CallbackEvent.run (call.events pg env b w) [] v =
        .ok [] { v with useSleepOnSig := w'.useSleepOnSig } := by
  cases call with
  | plan op => exact ⟨b, _, rfl, op.run_events pg env hflag⟩
  | execute op =>
    have hevents := op.run_events pg env b hflag
    obtain ⟨b', w', hstep⟩ : ∃ b' w', op.step pg env b w = .ok b' w' := op.step_returns b w
    have hnext : (op.run pg env b w).next = w' := by
      rcases BackendOp.step_cases hstep with hrun | ⟨e, hrun, -⟩
      · rw [hrun, Outcome.next_ok]
      · rw [hrun, Outcome.next_raise]
    rw [hnext] at hevents
    exact ⟨b', w', hstep, hevents⟩

variable (pg env) in
/-- **A backend does to the flag what its events do**, over any calls of the planner and of the
executor in any order. What is said of the events is so said of the callbacks themselves. -/
theorem runCalls_events (calls : List FdwCall) (b : Backend)
    (hflag : v.useSleepOnSig = w.useSleepOnSig) :
    Proc.fold CallbackEvent.run (callEvents pg env calls b w) [] v =
      .ok [] { v with useSleepOnSig := (runCalls pg env calls b w).next.useSleepOnSig } := by
  induction calls generalizing b w v with
  | nil =>
    rw [callEvents, runCalls, Proc.fold, Proc.fold, Proc.pure_run, Proc.pure_run,
      Outcome.next_ok, ← hflag]
  | cons call rest ih =>
    obtain ⟨b', w', hstep, hevents⟩ := call.step_events pg env b hflag
    rw [callEvents, hstep, Proc.fold_append hevents, runCalls, Proc.fold, Proc.bind_of_ok hstep]
    exact ih b' rfl

/-- Between the calls the flag is off, as long as every event keeps the bracket. -/
theorem runCalls_off {calls : List FdwCall} {b : Backend} (hoff : SwitchedOff w)
    (hmeet : Proc.StepsMeet (fun event running _ => event.keepsBracket running = true)
      CallbackEvent.run (callEvents pg env calls b w) [] w) :
    SwitchedOff (runCalls pg env calls b w).next := by
  have hevents := runCalls_events pg env calls b (rfl : w.useSleepOnSig = w.useSleepOnSig)
  have hbrackets := Proc.fold_ok (fun event running w running' w' hok h hrun =>
    (CallbackEvent.run_brackets h hrun).mpr hok) hmeet ?_ hevents
  · exact Bool.eq_false_iff.mpr fun hon => Bool.false_ne_true (hbrackets.mp hon)
  · exact iff_of_false (Bool.eq_false_iff.mp hoff) Bool.false_ne_true

end

end TiberoFdw
