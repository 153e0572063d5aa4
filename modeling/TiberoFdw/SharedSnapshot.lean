import TiberoFdw.Bindings
import TiberoFdw.Freshness

/-!
# One buffer for many scans

A flashback scan is bound to the `tsn` buffer of its cache entry, which all scans on
the connection share; the TSN that was recorded for the scan is in a buffer of its
own, which is bound to nothing. So an execution sends the TSN that was fetched last.
That is the one of the scan **as long as no other scan has fetched a newer one** since
the scan began (`ScanKept`).
-/

namespace TiberoFdw

/-- Another statement has asked for the snapshot since that one was opened. -/
def newerSnapshot (hstmt : Handle) (calls : List Issued) : Bool :=
  (calls.drop hstmt).any fun i =>
    match i.call with
    | .execDirect h sql => sql == snapshotSql && h != hstmt
    | _ => false

section

variable {pg : Postgres} {env : Environment} {w w' : World} {key : ConnCacheKey} {hstmt h : Handle}

theorem newerSnapshot_mono {calls calls' : List Issued} (hpre : calls <+: calls')
    (hnewer : newerSnapshot hstmt calls = true) : newerSnapshot hstmt calls' = true := by
  obtain ⟨rest, rfl⟩ := hpre
  rw [newerSnapshot, List.drop_append, List.any_append, Bool.or_eq_true]
  exact .inl hnewer

theorem newerSnapshot_of_query {calls : List Issued} {n : Nat} {rc : SqlReturn} (hle : hstmt ≤ n)
    (hquery : calls[n]? = some ⟨.execDirect h snapshotSql, rc⟩) (hne : h ≠ hstmt) :
    newerSnapshot hstmt calls = true := by
  have hmem : ⟨.execDirect h snapshotSql, rc⟩ ∈ calls.drop hstmt := by
    apply List.mem_of_getElem? (i := n - hstmt)
    rw [List.getElem?_drop, Nat.add_sub_cancel' hle]
    exact hquery
  refine List.any_eq_true.mpr ⟨_, hmem, ?_⟩
  simp [hne]

/-! ## What a call leaves alone -/

/-- A call on a statement changes no other one. -/
theorem SqlCall.effect_of_ne {call : SqlCall} (hcall : call.hstmt? = some hstmt) (hne : h ≠ hstmt)
    (n : Nat) (stmts : Handle → DriverStmt) : call.effect env n stmts h = stmts h := by
  cases call with
  | freeStmt hstmt' option =>
    cases option with
    | close =>
      cases hcall
      exact if_neg hne
    | drop => cases hcall
  | execDirect | prepare | execute | fetch | bindParameter =>
    cases hcall
    exact if_neg hne
  | setStmtAttr hstmt' attr value =>
    cases hcall
    rw [SqlCall.effect]
    split_ifs
    · exact if_neg hne
    · rfl
  | bindCol | numResultCols | describeCol => rfl
  | _ => cases hcall

theorem World.issued_stmts_of_ne {call : SqlCall} (hcall : call.hstmt? = some hstmt)
    (hne : h ≠ hstmt) (rc : SqlReturn) : (w.issued env call rc).stmts h = w.stmts h := by
  change (if sqlSucceeded rc then _ else _ : Handle → DriverStmt) h = _
  split_ifs
  · exact SqlCall.effect_of_ne hcall hne _ _
  · rfl

/-- Opening a connection or a statement binds nothing to the statements before. -/
theorem World.connects_params {call : SqlCall} {rc : SqlReturn} (hcall : call.Connects w rc)
    (hold : h ≤ w.trace.length) :
    ((w.issued env call rc).stmts h).params = (w.stmts h).params := by
  cases call with
  | allocHandle handleType inputHandle handle =>
    cases handleType with
    | stmt =>
      change ((if sqlSucceeded rc then _ else _ : Handle → DriverStmt) h).params = _
      split_ifs with hrc
      · have hne : h ≠ handle := by
          have hnew : handle = w.trace.length + 1 := hcall hrc
          rw [hnew]
          exact Nat.ne_of_lt (Nat.lt_succ_of_le hold)
        change (setStmt w.stmts handle (fun _ => DriverStmt.fresh) h).params = _
        rw [setStmt, if_neg hne]
      · rfl
    | env | dbc => exact World.issued_params rfl rc h
  | bindParameter | prepare | execute | setStmtAttr | numResultCols | describeCol | endTran =>
    exact hcall.elim
  | _ => exact World.issued_params rfl rc h

/-! ## A scan and its buffer -/

/-- The statement is bound to the buffer of the entry. -/
structure ScanBound (key : ConnCacheKey) (hstmt : Handle) (w : World) : Prop where
  bound : (w.stmts hstmt).params = [(1, .tsn key)]
  opened : hstmt ≤ w.trace.length

/-- The buffer holds the TSN that was recorded for the scan, or a newer one. -/
structure ScanKept (key : ConnCacheKey) (stmt : TbStatement) (w : World) : Prop extends
    ScanBound key stmt.hstmt w where
  tsn : newerSnapshot stmt.hstmt w.trace = true ∨ (w.conn key).tsn = stmt.tsn

theorem ScanBound.of_same (hb : ScanBound key hstmt w)
    (hparams : (w'.stmts hstmt).params = (w.stmts hstmt).params)
    (hpre : w.trace <+: w'.trace) : ScanBound key hstmt w' :=
  ⟨hparams.trans hb.bound, Nat.le_trans hb.opened hpre.length_le⟩

theorem ScanKept.of_same {stmt : TbStatement} (hs : ScanKept key stmt w)
    (hparams : (w'.stmts stmt.hstmt).params = (w.stmts stmt.hstmt).params)
    (hpre : w.trace <+: w'.trace) (htsn : (w'.conn key).tsn = (w.conn key).tsn) :
    ScanKept key stmt w' := by
  refine ⟨hs.toScanBound.of_same hparams hpre, ?_⟩
  rcases hs.tsn with hnewer | hown
  · exact .inl (newerSnapshot_mono hpre hnewer)
  · exact .inr (htsn.trans hown)

/-- Getting another statement leaves the binding alone. -/
theorem snapshotRules_scanBound (env : Environment) (k key : ConnCacheKey) (hstmt : Handle) :
    SnapshotRules env k (ScanBound key hstmt) :=
  { issued := fun _ _ _ hcall hb =>
      hb.of_same (World.connects_params hcall hb.opened) (List.prefix_append ..)
    setConn := fun _ _ _ hb => ⟨hb.bound, hb.opened⟩
    lookup := fun _ _ hb => ⟨hb.bound, hb.opened⟩
    invalidated := fun _ _ _ hb => ⟨hb.bound, hb.opened⟩
    setTsn := fun _ _ hb => ⟨hb.bound, hb.opened⟩ }

/-- Only the query for the snapshot writes the buffer. -/
theorem entryRules_tsn (env : Environment) (k key : ConnCacheKey) (tsn : Text) :
    EntryRules env k fun w => (w.conn key).tsn = tsn where
  issued _ _ _ _ htsn := htsn
  setConn w f hf htsn := by
    by_cases hk : key = k
    · subst hk
      rw [World.setConn_self, hf, htsn]
    · rw [World.setConn_of_ne hk, htsn]
  lookup _ _ htsn := htsn
  invalidated w cacheid hashvalue htsn := by
    change (if key ∈ w.keys then invalidateEntry cacheid hashvalue (w.conn key)
      else w.conn key).tsn = tsn
    rw [invalidateEntry]
    split_ifs <;> exact htsn

/-! ## A scan begins -/

/-- The scans that have begun. -/
def AllKept (key : ConnCacheKey) (scans : TbStatement → Prop) (w : World) : Prop :=
  ∀ stmt, scans stmt → ScanKept key stmt w

variable {scans : TbStatement → Prop}

theorem AllKept.of_same (hall : AllKept key scans w) (hpre : w.trace <+: w'.trace)
    (hparams : ∀ stmt, scans stmt →
      (w'.stmts stmt.hstmt).params = (w.stmts stmt.hstmt).params)
    (htsn : (w'.conn key).tsn = (w.conn key).tsn) : AllKept key scans w' :=
  fun stmt hstmt => (hall stmt hstmt).of_same (hparams stmt hstmt) hpre htsn

theorem World.entered_tsn : ((w.entered env key).conn key).tsn = (w.conn key).tsn := by
  rw [World.entered]
  split_ifs
  · rfl
  · change ((w.setConn key fun c => { c with connected := false }).conn key).tsn = _
    rw [World.setConn_self]

/-- The buffer after the connection was made sure of, on both exits. -/
theorem ensureConnection_tsn (user : UserMapping) :
    ((ensureConnection pg env key user w).next.conn key).tsn = (w.conn key).tsn := by
  have hkeeps : Proc.Keeps (fun w' => (w'.conn key).tsn = (w.conn key).tsn)
      (ensureConnection pg env key user) := (entryRules_tsn env key key _).ensureConnection user
  exact hkeeps.next rfl

/-- The buffer after a statement was opened: a new one is newer than those of the
statements before. -/
theorem openStatement_tsn {tbStmt stmt : TbStatement} {useFbQuery : Bool}
    (hopen : openStatement env tbStmt useFbQuery w = .ok stmt w') (hold : h ≤ w.trace.length) :
    newerSnapshot h w'.trace = true ∨ (w'.conn tbStmt.conn).tsn = (w.conn tbStmt.conn).tsn := by
  have hsnapshot := openStatement_snapshot hopen
  rcases hneed : (useFbQuery && needRemoteSnapshot w tbStmt.conn) with _ | _
  · exact .inr (hsnapshot.kept hneed).1
  · obtain ⟨n, rc, hn, hquery⟩ := hsnapshot.query hneed
    refine .inl (newerSnapshot_of_query (Nat.le_trans hold hn) hquery ?_)
    rw [(openStatement_ok hopen).hstmt]
    exact Nat.ne_of_gt (Nat.lt_succ_of_le hold)

/-- What holds while a scan begins: those before have older statements. -/
def Beginning (key : ConnCacheKey) (scans : TbStatement → Prop) (hstmt : Handle) (w : World) :
    Prop :=
  AllKept key scans w ∧ (∀ stmt, scans stmt → stmt.hstmt < hstmt) ∧ hstmt ≤ w.trace.length

theorem getTbStatement_allKept (hok : env.AllOk) (user : UserMapping) (tbStmt : TbStatement)
    (useFbQuery : Bool) :
    Proc.Triple (AllKept user.umid scans) (getTbStatement pg env user tbStmt useFbQuery)
      (fun stmt => Beginning user.umid scans stmt.hstmt) fun _ => AllKept user.umid scans := by
  intro w hall
  have hbound : ∀ stmt, scans stmt → ScanBound user.umid stmt.hstmt
      (getTbStatement pg env user tbStmt useFbQuery w).next := by
    intro stmt hstmt
    have hentered : ScanBound user.umid stmt.hstmt (w.entered env user.umid) := by
      refine (hall stmt hstmt).toScanBound.of_same ?_ (World.entered_trace ▸ List.prefix_rfl)
      rw [World.entered]
      split_ifs <;> rfl
    exact (snapshotRules_scanBound env user.umid user.umid stmt.hstmt).getTbStatement_next hentered
      tbStmt useFbQuery
  have hpre := (getTbStatement_touches pg env user tbStmt useFbQuery w).trace
  rw [World.entered_trace] at hpre
  have hensured : ((ensureConnection pg env user.umid user (w.entered env user.umid)).next.conn
      user.umid).tsn = (w.conn user.umid).tsn := by
    rw [ensureConnection_tsn, World.entered_tsn]
  -- a snapshot that was fetched is newer for every scan that is open
  have hcases : ∀ {w'}, (getTbStatement pg env user tbStmt useFbQuery w).next = w' →
      (∀ h ≤ w.trace.length, newerSnapshot h w'.trace = true ∨
        (w'.conn user.umid).tsn = (w.conn user.umid).tsn) → AllKept user.umid scans w' := by
    rintro w' rfl htsn stmt hstmt
    refine ⟨hbound stmt hstmt, ?_⟩
    rcases (hall stmt hstmt).tsn with hnewer | hown
    · exact .inl (newerSnapshot_mono hpre hnewer)
    · rcases htsn _ (hall stmt hstmt).opened with hnewer | hsame
      · exact .inl hnewer
      · exact .inr (hsame.trans hown)
  rcases hrun : getTbStatement pg env user tbStmt useFbQuery w with ⟨stmt, w'⟩ | ⟨e, w'⟩
  · have htry := getTbStatement_try hok hrun
    rw [tryTbStatement] at htry
    obtain ⟨_, w₁, hensure, hopen⟩ := Proc.bind_eq_ok.mp htry
    have hensure : ensureConnection pg env user.umid user (w.entered env user.umid) = .ok _ w₁ :=
      hensure
    rw [hensure] at hensured
    have hle := (ensureConnection_touches hensure).trace.length_le
    rw [World.entered_trace] at hle
    have hopened := openStatement_ok hopen
    refine ⟨hcases (by rw [hrun]; rfl) fun h hold => ?_, fun stmt' hstmt' => ?_, ?_⟩
    · rcases openStatement_tsn hopen (Nat.le_trans hold hle) with hnewer | hsame
      · exact .inl hnewer
      · exact .inr (hsame.trans hensured)
    · rw [hopened.hstmt]
      exact Nat.lt_succ_of_le (Nat.le_trans (hall stmt' hstmt').opened hle)
    · rw [hopened.hstmt]
      exact hopened.trace
  · refine hcases (by rw [hrun]; rfl) fun h hold => .inr ?_
    -- with a driver that succeeds, the error comes from the options of the server
    rcases htry : tryTbStatement pg env user { tbStmt with conn := user.umid } useFbQuery
        (w.entered env user.umid) with ⟨stmt, w₁⟩ | ⟨err, w₁⟩
    · rw [getTbStatement_run, Proc.onError_of_ok htry] at hrun
      cases hrun
    have hbad := tryTbStatement_raisesOnly hok _ _ _ _ _ _ htry
    have hcode : err.sqlerrcode ≠ .fdwError := by
      rw [hbad.1]
      decide
    rw [getTbStatement_run, Proc.onError_of_raise htry, if_neg hcode] at hrun
    cases hrun
    rw [tryTbStatement] at htry
    rcases Proc.bind_eq_raise.mp htry with hraise | ⟨_, w₂, -, hraise⟩
    · have hraise : ensureConnection pg env user.umid user (w.entered env user.umid) =
        .raise e w' := hraise
      rw [hraise] at hensured
      exact hensured
    · exact (openStatement_raisesOnly (E := fun _ => False) hok _ _ _ _ _ hraise).elim

/-- Disconnecting leaves the bindings and the buffers alone. -/
theorem dropConnection_allKept (k : ConnCacheKey) :
    Proc.Keeps (AllKept key scans) (dropConnection env k) := by
  have hissue : ∀ {call : SqlCall}, call.rebinds = false →
      Proc.Keeps (AllKept key scans) (issue env call) := fun hcall w hall =>
    hall.of_same (List.prefix_append ..) (fun _ _ => World.issued_params hcall _ _) rfl
  refine .read_bind fun w => .when (.bind (.modify fun w hall => ?_) fun _ => ?_)
  · exact hall.of_same List.prefix_rfl (fun _ _ => rfl)
      ((entryRules_tsn env k key _).setConn w _ (fun _ => rfl) rfl)
  · refine .bind (hissue rfl) fun _ => .bind (hissue rfl) fun _ => ?_
    exact .bind (hissue rfl) fun _ => .pure _

theorem statementRules_beginning (env : Environment) (key : ConnCacheKey)
    (scans : TbStatement → Prop) :
    StatementRules env (AllKept key scans) fun hstmt _ => Beginning key scans hstmt where
  inv _ _ _ hb := hb.1
  sleepUsing _ _ _ _ hb :=
    ⟨hb.1.of_same List.prefix_rfl (fun _ _ => rfl) rfl, hb.2.1, hb.2.2⟩
  issued hstmt _ w call rc hcall hb := by
    refine ⟨hb.1.of_same (List.prefix_append ..) (fun stmt hstmt' => ?_) rfl, hb.2.1, ?_⟩
    · rw [World.issued_stmts_of_ne hcall (Nat.ne_of_lt (hb.2.1 stmt hstmt'))]
    · rw [World.issued_length]
      exact Nat.le_succ_of_le hb.2.2
  report _ k := .weaken (dropConnection_allKept k) (fun _ hb => hb.1) (fun _ _ hb => hb)
    fun _ _ hb => hb

/-- A scan begins, and the others go on. -/
theorem tiberoBeginForeignScan_allKept (hok : env.AllOk) (user : UserMapping)
    (fsplan : ForeignScan) (rel : Relation) :
    Proc.Triple (AllKept user.umid scans) (tiberoBeginForeignScan pg env rel user false fsplan)
      (fun r w => ∃ fsstate, r = some fsstate ∧ Beginning user.umid scans fsstate.tbStmt.hstmt w)
      fun _ => AllKept user.umid scans :=
  (statementRules_beginning env user.umid scans).beginForeignScan
    (fun _ _ hall => hall.of_same List.prefix_rfl (fun _ _ => rfl) rfl)
    (getTbStatement_allKept hok user TbStatement.zeroed fsplan.useFbQuery) rel

/-- A new scan is bound to the buffer, which holds its own TSN. -/
theorem tiberoBeginForeignScan_kept (hok : env.AllOk) {user : UserMapping} {fsplan : ForeignScan}
    {rel : Relation} {fsstate : TbFdwScanState} (huse : fsplan.useFbQuery = true)
    (hiso : w.isolationUsesXactSnapshot = false)
    (hrun : tiberoBeginForeignScan pg env rel user false fsplan w = .ok (some fsstate) w')
    (hle : fsstate.tbStmt.hstmt ≤ w'.trace.length) :
    ScanKept user.umid fsstate.tbStmt w' := by
  obtain ⟨stmt, w₁, hget, hstmt, hbinds⟩ := tiberoBeginForeignScan_bound hrun
  have hmoment := (getTbStatement_moment user _ _).apply_ok rfl hget
  have hiso₁ : w₁.isolationUsesXactSnapshot = false := by
    have hsame := congrArg (·.isolationUsesXactSnapshot) hmoment
    exact hsame.trans hiso
  have htry := getTbStatement_try hok hget
  rw [tryTbStatement] at htry
  obtain ⟨_, w₂, -, hopen⟩ := Proc.bind_eq_ok.mp htry
  have hconn : stmt.conn = user.umid := (openStatement_ok hopen).stmtConn
  have htsn : stmt.tsn = (w₁.conn user.umid).tsn := (openStatement_snapshot hopen).tsn
  have hparams := hbinds.params
  rw [huse, hiso₁, hconn] at hparams
  refine ⟨⟨?_, hle⟩, .inr ?_⟩
  · rw [hstmt]
    exact hparams
  · rw [hstmt, hbinds.conn]
    exact htsn.symm

/-! ## A scan is executed -/

/-- Queries were executed, with such parameters, and rows were fetched. -/
structure Executing (key : ConnCacheKey) (sent : List (Nat × Option Text) → Prop) (w w' : World) :
    Prop where
  tsn : (w'.conn key).tsn = (w.conn key).tsn
  params : ∀ h, (w'.stmts h).params = (w.stmts h).params
  isolation : w'.isolationUsesXactSnapshot = w.isolationUsesXactSnapshot
  trace : w.trace <+: w'.trace
  executes : IssuedSince w.trace.length (fun call => ∀ h params, call = .execute h params →
    sent params) w'.trace

variable {sent : List (Nat × Option Text) → Prop}

theorem Executing.refl (key : ConnCacheKey) (sent : List (Nat × Option Text) → Prop) (w : World) :
    Executing key sent w w :=
  ⟨rfl, fun _ => rfl, rfl, List.prefix_rfl, IssuedSince.now _ _⟩

theorem Executing.issued {w₁ : World} (he : Executing key sent w w₁) {call : SqlCall}
    (hcall : call.rebinds = false) (hsent : ∀ h params, call = .execute h params → sent params)
    (rc : SqlReturn) : Executing key sent w (w₁.issued env call rc) :=
  ⟨he.tsn, fun h => (World.issued_params hcall rc h).trans (he.params h), he.isolation,
    he.trace.trans (List.prefix_append ..), IssuedSince.keeps hsent _ _ he.executes⟩

theorem checkReturn_executing (k : ConnCacheKey) (sqlerrcode : SqlState) (rc : SqlReturn) :
    Proc.Keeps (Executing key sent w) (checkReturn env k sqlerrcode rc) := by
  have hissue : ∀ {call : SqlCall}, call.rebinds = false →
      (∀ h params, call = .execute h params → sent params) →
      Proc.Keeps (Executing key sent w) (issue env call) :=
    fun hcall hsent w₁ he => he.issued hcall hsent _
  rw [checkReturn]
  split_ifs
  · exact .pure _
  refine .bind (.read_bind fun w => .when (.bind (.modify fun w₁ he => ?_) fun _ => ?_)) fun _ =>
    .raise _
  · have htsn := (entryRules_tsn env k key (w₁.conn key).tsn).setConn w₁
      (fun c => { c with beginRemoteXact := false, connected := false }) (fun _ => rfl) rfl
    exact ⟨htsn.trans he.tsn, he.params, he.isolation, he.trace, he.executes⟩
  · refine .bind (hissue rfl (by rintro h params ⟨⟩)) fun _ => ?_
    refine .bind (hissue rfl (by rintro h params ⟨⟩)) fun _ => ?_
    exact .bind (hissue rfl (by rintro h params ⟨⟩)) fun _ => .pure _

/-- An execution sends what the buffer holds now. -/
theorem executeUnlessExecuted_executing {stmt : TbStatement} (hb : ScanBound key stmt.hstmt w)
    (hsent : stmt.queryExecuted = false → sent [(1, some (w.conn key).tsn)]) :
    Proc.Keeps (Executing key sent w) (executeUnlessExecuted env stmt) := by
  rw [executeUnlessExecuted]
  split_ifs with hdone
  · exact .pure _
  refine .bind (fun w₁ he => ?_) fun rc => .bind (checkReturn_executing _ _ _) fun _ => .pure _
  have hvalues : w₁.paramValues stmt.hstmt = [(1, some (w.conn key).tsn)] := by
    rw [World.paramValues, he.params, hb.bound]
    simp [ParamSource.value, he.tsn]
  refine he.issued rfl ?_ _
  rintro h params ⟨⟩
  rw [hvalues]
  exact hsent (by simpa using hdone)

theorem tbSqlFetch_executing (stmt : TbStatement) :
    Proc.Keeps (Executing key sent w) (tbSqlFetch env stmt) := by
  have hfetch : Proc.Keeps (Executing key sent w) (sqlFetch env stmt.hstmt) := by
    intro w₁ he
    have hissued : ∀ rc, Executing key sent w (w₁.issued env (.fetch stmt.hstmt) rc) := fun rc =>
      he.issued rfl (by rintro h params ⟨⟩) rc
    rw [sqlFetch]
    split_ifs <;> exact hissued _
  refine .bind hfetch fun r => ?_
  dsimp only
  split_ifs
  · exact .pure _
  · exact .bind (checkReturn_executing _ _ _) fun _ => .pure _

theorem tiberoIterateForeignScan_executing {fsstate : TbFdwScanState}
    (hb : ScanBound key fsstate.tbStmt.hstmt w)
    (hsent : fsstate.tbStmt.queryExecuted = false → sent [(1, some (w.conn key).tsn)]) :
    Proc.Keeps (Executing key sent w) (tiberoIterateForeignScan pg env fsstate) := by
  have hon : Proc.Keeps (Executing key sent w) setSleepOnSigOn :=
    .modify fun _ he => ⟨he.tsn, he.params, he.isolation, he.trace, he.executes⟩
  have hoff : Proc.Keeps (Executing key sent w) setSleepOnSigOff :=
    .modify fun _ he => ⟨he.tsn, he.params, he.isolation, he.trace, he.executes⟩
  have hmake : ∀ fsstate, Proc.Keeps (Executing key sent w) (makeTuples pg fsstate) := by
    intro fsstate
    rw [makeTuples]
    rcases formTuples pg fsstate _ with e | tuples
    · exact .raise _
    · exact .pure _
  have hfetch : ∀ fsstate, Proc.Keeps (Executing key sent w) (fetchTuples pg env fsstate) := by
    intro fsstate
    refine .bind (tbSqlFetch_executing _) fun r => ?_
    dsimp only
    by_cases hend : (fsstate.endOfFetch || r.2) = true
    · rw [if_pos hend]
      exact .pure _
    · rw [if_neg hend]
      exact hmake _
  have hnext : ∀ fsstate, Proc.Keeps (Executing key sent w) (getNextTuple fsstate) := by
    intro fsstate
    rw [getNextTuple]
    split_ifs
    · exact .pure _
    · rcases fsstate.tuples[fsstate.curTupleIdx]? with _ | tuple
      · exact .raise _
      · exact .pure _
  refine .bind hon fun _ => .bind (executeUnlessExecuted_executing hb hsent) fun stmt => ?_
  refine .bind ?_ fun fsstate₁ => .bind (hnext fsstate₁) fun r => .bind hoff fun _ => .pure _
  split_ifs
  · exact hfetch _
  · exact .pure _

/-! ## Runs -/

/-- Flashback scans on one connection, over any number of statements. -/
def BackendOp.OnFlashback (key : ConnCacheKey) : BackendOp → Prop
  | .startStatement _ => True
  | .beginScan _ user fsplan => user.umid = key ∧ fsplan.useFbQuery = true
  | .iterate _ => True
  | .reScan _ => True
  | _ => False

/-- The TSN that `get_tb_statement` recorded for a scan when it began: the one in its
state as soon as it is there. -/
def recordedTsn (pg : Postgres) (env : Environment) (i : Nat) :
    List BackendOp → Backend → World → Option Text
  | [], b, _ => (b.scan i).map (·.tbStmt.tsn)
  | op :: rest, b, w =>
    match b.scan i with
    | some fsstate => some fsstate.tbStmt.tsn
    | none =>
      match op.step pg env b w with
      | .ok b' w' => recordedTsn pg env i rest b' w'
      | .raise _ _ => none

/-- Every execution of a scan sends the TSN that was recorded for it. -/
def ReadsOwnSnapshot (pg : Postgres) (env : Environment) (ops : List BackendOp) (w₀ : World) :
    Prop :=
  ∀ ops₁ ops₂ i tsn b w, ops = ops₁ ++ .iterate i :: ops₂ →
    runBackend pg env ops₁ Backend.start w₀ = .ok b w →
    recordedTsn pg env i ops₁ Backend.start w₀ = some tsn →
    ∀ hstmt params rc, ⟨.execute hstmt params, rc⟩ ∈
      ((BackendOp.iterate i).step pg env b w).next.trace.drop w.trace.length →
      params = [(1, some tsn)]

/-- When a scan is executed, no other one has fetched a newer TSN since it began. -/
def snapshotCurrent (op : BackendOp) (b : Backend) (w : World) : Bool :=
  match op with
  | .iterate i => (b.scan i).all fun fsstate =>
    fsstate.tbStmt.queryExecuted || !newerSnapshot fsstate.tbStmt.hstmt w.trace
  | _ => true

/-- The statements of the scans of a backend. -/
def Backend.begun (b : Backend) (stmt : TbStatement) : Prop :=
  ∃ i fsstate, b.scan i = some fsstate ∧ fsstate.tbStmt = stmt

/-- What holds between the calls. -/
structure ScansKept (key : ConnCacheKey) (b : Backend) (w : World) : Prop where
  scans : AllKept key b.begun w
  isolation : w.isolationUsesXactSnapshot = false

theorem statementRules_moment (env : Environment) (m : Moment) :
    StatementRules env (·.moment = m) fun _ _ w => w.moment = m where
  inv _ _ _ hm := hm
  sleepUsing _ _ _ _ hm := hm
  issued _ _ _ _ _ _ hm := hm
  report _ k := (snapshotRules_moment env k m).dropConnection

/-- Beginning a scan changes nothing about the moment. -/
theorem tiberoBeginForeignScan_isolation (rel : Relation) (user : UserMapping)
    (fsplan : ForeignScan) :
    (tiberoBeginForeignScan pg env rel user false fsplan w).next.isolationUsesXactSnapshot =
      w.isolationUsesXactSnapshot := by
  have hget : Proc.Triple (·.moment = w.moment)
      (getTbStatement pg env user TbStatement.zeroed fsplan.useFbQuery)
      (fun _ w' => w'.moment = w.moment) fun _ w' => w'.moment = w.moment :=
    getTbStatement_moment user _ _
  have hbegin := (statementRules_moment env w.moment).beginForeignScan (fun _ _ hm => hm) hget rel
    w rfl
  rcases hrun : tiberoBeginForeignScan pg env rel user false fsplan w with ⟨r, w'⟩ | ⟨e, w'⟩
  · rw [hrun] at hbegin
    obtain ⟨_, -, hm⟩ := hbegin
    exact congrArg (·.isolationUsesXactSnapshot) hm
  · rw [hrun] at hbegin
    have hm : w'.moment = w.moment := hbegin
    exact congrArg (·.isolationUsesXactSnapshot) hm

/-- A scan was executed or set back. -/
theorem AllKept.scan_set {b : Backend} (hall : AllKept key b.begun w) {i : Nat}
    {fsstate fsstate' : TbFdwScanState} (hscan : b.scan i = some fsstate)
    (hhstmt : fsstate'.tbStmt.hstmt = fsstate.tbStmt.hstmt)
    (htsn : fsstate'.tbStmt.tsn = fsstate.tbStmt.tsn) :
    AllKept key { b with scans := b.scans.set i (some fsstate') : Backend }.begun w := by
  rintro stmt ⟨j, fsstate₂, hscan₂, rfl⟩
  rw [Backend.scan_set hscan] at hscan₂
  split_ifs at hscan₂
  · cases hscan₂
    have hkept := hall _ ⟨i, fsstate, hscan, rfl⟩
    constructor
    · rw [hhstmt]
      exact hkept.toScanBound
    · rw [hhstmt, htsn]
      exact hkept.tsn
  · exact hall _ ⟨j, fsstate₂, hscan₂, rfl⟩

/-- One call, whatever the TSNs are. -/
theorem ScansKept.step (hok : env.AllOk) {op : BackendOp} (hop : op.OnFlashback key)
    {b b' : Backend} (hs : ScansKept key b w) (hstep : op.step pg env b w = .ok b' w') :
    ScansKept key b' w' := by
  have hcases := BackendOp.step_cases hstep
  cases op with
  | startStatement timestamp =>
    cases hstep
    exact ⟨hs.scans.of_same List.prefix_rfl (fun _ _ => rfl) rfl, hs.isolation⟩
  | beginScan rel user fsplan =>
    obtain ⟨rfl, huse⟩ := hop
    -- the isolation level is read once, before the scan begins
    have hiso : ∀ {o}, tiberoBeginForeignScan pg env rel user false fsplan w = o →
        o.next.isolationUsesXactSnapshot = false := by
      rintro _ rfl
      exact (tiberoBeginForeignScan_isolation rel user fsplan).trans hs.isolation
    have hbegin : Proc.Triple (AllKept user.umid b.begun)
        (tiberoBeginForeignScan pg env rel user false fsplan) _ _ :=
      tiberoBeginForeignScan_allKept hok user fsplan rel
    rcases hcases with hrun | ⟨e, hrun, rfl⟩
    · obtain ⟨r, w₁, hrun, hend⟩ := Proc.bind_eq_ok.mp hrun
      obtain ⟨fsstate, rfl, hbegun⟩ := hbegin.apply_ok hs.scans hrun
      cases hend
      refine ⟨?_, hiso hrun⟩
      rintro stmt ⟨j, fsstate', hscan, rfl⟩
      rw [Backend.scan_append] at hscan
      split_ifs at hscan
      · cases hscan
        exact tiberoBeginForeignScan_kept hok huse hs.isolation hrun hbegun.2.2
      · exact hbegun.1 _ ⟨j, fsstate', hscan, rfl⟩
    · rcases Proc.bind_eq_raise.mp hrun with hrun | ⟨_, _, -, hend⟩
      · exact ⟨hbegin.apply_raise hs.scans hrun, hiso hrun⟩
      · cases hend
  | iterate i =>
    rw [BackendOp.run] at hcases
    rcases hscan : b.scan i with _ | fsstate
    · rw [hscan] at hcases
      rcases hcases with hrun | ⟨e, hrun, -⟩ <;> cases hrun
      exact hs
    rw [hscan] at hcases
    -- an iteration may execute, and changes no parameters
    have hkeeps : Proc.Keeps (Executing key (fun _ => True) w)
        (tiberoIterateForeignScan pg env fsstate) :=
      tiberoIterateForeignScan_executing (hs.scans _ ⟨i, fsstate, hscan, rfl⟩).toScanBound
        fun _ => trivial
    have hexec := hkeeps.next (.refl key _ w)
    have hall : AllKept key b.begun (tiberoIterateForeignScan pg env fsstate w).next :=
      hs.scans.of_same hexec.trace (fun stmt _ => hexec.params stmt.hstmt) hexec.tsn
    have hiso := hexec.isolation.trans hs.isolation
    rcases hcases with hrun | ⟨e, hrun, rfl⟩
    · obtain ⟨⟨fsstate', slot⟩, w₁, hiterate, hend⟩ := Proc.bind_eq_ok.mp hrun
      cases hend
      rw [hiterate] at hall hiso
      have hstmt := iterate_tbStmt hiterate
      exact ⟨hall.scan_set hscan (by rw [hstmt]) (by rw [hstmt]), hiso⟩
    · rcases Proc.bind_eq_raise.mp hrun with hiterate | ⟨_, _, -, hend⟩
      · rw [hiterate] at hall hiso
        exact ⟨hall, hiso⟩
      · cases hend
  | reScan i =>
    rw [BackendOp.run] at hcases
    rcases hscan : b.scan i with _ | fsstate
    · rw [hscan] at hcases
      rcases hcases with hrun | ⟨e, hrun, -⟩ <;> cases hrun
      exact hs
    rw [hscan] at hcases
    rcases hcases with hrun | ⟨e, hrun, -⟩ <;> cases hrun
    have hall : AllKept key b.begun { w with useSleepOnSig := false } :=
      hs.scans.of_same List.prefix_rfl (fun _ _ => rfl) rfl
    exact ⟨hall.scan_set hscan rfl rfl, hs.isolation⟩
  | _ => exact hop.elim

/-- A scan keeps the TSN that was recorded for it. -/
theorem BackendOp.OnFlashback.recorded {op : BackendOp} (hop : op.OnFlashback key) {i : Nat}
    {tsn : Text} {b b' : Backend} (hrecorded : (b.scan i).map (·.tbStmt.tsn) = some tsn)
    (hstep : op.step pg env b w = .ok b' w') : (b'.scan i).map (·.tbStmt.tsn) = some tsn := by
  have hset : ∀ {j : Nat} {fsstate fsstate' : TbFdwScanState}, b.scan j = some fsstate →
      fsstate'.tbStmt.tsn = fsstate.tbStmt.tsn → b'.scans = b.scans.set j (some fsstate') →
      (b'.scan i).map (·.tbStmt.tsn) = some tsn := by
    intro j fsstate fsstate' hscan htsn hscans
    have hset := Backend.scan_set hscan (some fsstate') i
    rw [Backend.scan, hscans]
    rw [Backend.scan] at hset
    rw [hset]
    split_ifs with hij
    · subst hij
      rw [hscan] at hrecorded
      exact (congrArg some htsn).trans hrecorded
    · exact hrecorded
  rcases BackendOp.step_cases hstep with hrun | ⟨e, -, rfl⟩
  · cases op with
    | startStatement timestamp =>
      cases hrun
      exact hrecorded
    | beginScan rel user fsplan =>
      obtain ⟨r, w₂, -, hrun⟩ := Proc.bind_eq_ok.mp hrun
      cases hrun
      rw [Backend.scan_append]
      split_ifs with hi
      · rw [hi, Backend.scan, List.getElem?_eq_none (Nat.le_refl _)] at hrecorded
        cases hrecorded
      · exact hrecorded
    | iterate j =>
      rcases hscan : b.scan j with _ | fsstate
      · rw [BackendOp.run, hscan] at hrun
        cases hrun
        exact hrecorded
      rw [BackendOp.run, hscan] at hrun
      obtain ⟨⟨fsstate', slot⟩, w₂, hiterate, hrun⟩ := Proc.bind_eq_ok.mp hrun
      cases hrun
      exact hset hscan (by rw [iterate_tbStmt hiterate]) rfl
    | reScan j =>
      rcases hscan : b.scan j with _ | fsstate
      · rw [BackendOp.run, hscan] at hrun
        cases hrun
        exact hrecorded
      rw [BackendOp.run, hscan] at hrun
      obtain ⟨fsstate', w₂, hrescan, hrun⟩ := Proc.bind_eq_ok.mp hrun
      have htsn : fsstate'.tbStmt.tsn = fsstate.tbStmt.tsn := by
        cases hrescan
        rfl
      cases hrun
      exact hset hscan htsn rfl
    | _ => exact hop.elim
  · exact hrecorded

theorem recordedTsn_stays {ops : List BackendOp} (hops : ∀ op ∈ ops, op.OnFlashback key) {i : Nat}
    {tsn : Text} {b b' : Backend} (hrecorded : recordedTsn pg env i ops b w = some tsn)
    (hrun : runBackend pg env ops b w = .ok b' w') :
    (b'.scan i).map (·.tbStmt.tsn) = some tsn := by
  induction ops generalizing b w with
  | nil =>
    cases hrun
    exact hrecorded
  | cons op rest ih =>
    rcases hscan : b.scan i with _ | fsstate
    · rw [recordedTsn, hscan] at hrecorded
      obtain ⟨b₁, w₁, hstep, hrun⟩ := Proc.bind_eq_ok.mp hrun
      dsimp only at hrecorded
      rw [hstep] at hrecorded
      exact ih (fun op' hop' => hops op' (List.mem_cons_of_mem _ hop')) hrecorded hrun
    · rw [recordedTsn, hscan] at hrecorded
      have hbegun : (b.scan i).map (·.tbStmt.tsn) = some tsn := by
        rw [hscan]
        exact hrecorded
      exact Proc.fold_ok (I := fun b₁ _ => (b₁.scan i).map (·.tbStmt.tsn) = some tsn)
        (fun _ _ _ _ _ hop h hstep => hop.recorded h hstep)
        (Proc.StepsMeet.of_forall hops b w) hbegun hrun

/-- **Every execution sends the TSN of its scan**, in every run where no scan is
executed after another one has fetched a newer TSN. The scans of a connection share one buffer,
and what is bound is its address, so that the last TSN is sent for all of them. -/
theorem executes_ownSnapshot {ops : List BackendOp} {w₀ : World} (hok : env.AllOk)
    (hops : ∀ op ∈ ops, op.OnFlashback key) (hiso : w₀.isolationUsesXactSnapshot = false)
    (hcurrent : Proc.StepsMeet (fun op b w => snapshotCurrent op b w = true)
      (BackendOp.step pg env) ops Backend.start w₀) :
    ReadsOwnSnapshot pg env ops w₀ := by
  rintro ops₁ ops₂ i tsn b w rfl hrun hrecorded hstmt params rc hexec
  have hops₁ : ∀ op ∈ ops₁, op.OnFlashback key := fun op hop =>
    hops op (List.mem_append_left _ hop)
  have hkept : ScansKept key b w :=
    Proc.fold_ok (I := ScansKept key) (fun _ _ _ _ _ hop hs hstep => hs.step hok hop hstep)
      (Proc.StepsMeet.of_forall hops₁ _ _)
      ⟨fun _ ⟨_, _, hscan, _⟩ => (nomatch hscan), hiso⟩ hrun
  have hstays := recordedTsn_stays hops₁ hrecorded hrun
  rcases hscan : b.scan i with _ | fsstate
  · rw [hscan] at hstays
    cases hstays
  rw [hscan] at hstays
  have htsn : fsstate.tbStmt.tsn = tsn := Option.some.inj hstays
  have hscanKept := hkept.scans _ ⟨i, fsstate, hscan, rfl⟩
  have hnow : snapshotCurrent (.iterate i) b w = true := (hcurrent.append hrun).2.1
  rw [snapshotCurrent, hscan] at hnow
  have hkeeps : Proc.Keeps (Executing key (fun params => params = [(1, some tsn)]) w)
      (tiberoIterateForeignScan pg env fsstate) := by
    refine tiberoIterateForeignScan_executing hscanKept.toScanBound fun hexecuted => ?_
    rcases hscanKept.tsn with hnewer | hown
    · simp [hexecuted, hnewer] at hnow
    · rw [hown, htsn]
  have hexecuting := hkeeps.next (.refl key _ w)
  rw [BackendOp.iterate_next hscan] at hexec
  exact hexecuting.executes.2 _ hexec hstmt params rfl

end

/-- A driver that finds a newer TSN from its 15th call on. -/
def Environment.advancing : Environment :=
  { Environment.delivering [] with
    result := fun n => [[some (if n < 15 then "7".toList else "8".toList)]] }

/-- A scan of the table with one text column at the snapshot of its statement. -/
def textFlashbackScan : BackendOp :=
  .beginScan textTable .sample { twoAtATimeScan with useFbQuery := true }

/-- Two scans of one statement. -/
theorem oneStatement_ownSnapshot :
    ReadsOwnSnapshot .small .advancing
      [textFlashbackScan, textFlashbackScan, .iterate 0, .iterate 1] World.started := by
  have hops : ∀ op ∈ [textFlashbackScan, textFlashbackScan, .iterate 0, .iterate 1],
      op.OnFlashback UserMapping.sample.umid := by
    intro op hop
    simp only [List.mem_cons, List.not_mem_nil, or_false] at hop
    rcases hop with rfl | rfl | rfl | rfl
    · exact ⟨rfl, rfl⟩
    · exact ⟨rfl, rfl⟩
    · trivial
    · trivial
  exact executes_ownSnapshot (fun _ => rfl) hops rfl (by decide +kernel)

/-- A scan of the first statement is executed after one of the second has begun. -/
theorem laterScan_sendsNewerTsn :
    ¬ReadsOwnSnapshot .small .advancing
      [textFlashbackScan, .startStatement 2, textFlashbackScan, .iterate 0] World.started := by
  intro h
  obtain ⟨b, w, hrun, hsent⟩ := Outcome.exists_of_okAnd
    (o := runBackend .small .advancing [textFlashbackScan, .startStatement 2, textFlashbackScan]
      Backend.start World.started)
    (p := fun b w => (((BackendOp.iterate 0).step .small .advancing b w).next.trace.drop
      w.trace.length).any fun i =>
        match i.call with
        | .execute _ params => params == [(1, some "8".toList)]
        | _ => false) (by decide +kernel)
  obtain ⟨⟨call, rc⟩, hmem, htest⟩ := List.any_eq_true.mp hsent
  have hrecorded : recordedTsn .small .advancing 0
      [textFlashbackScan, .startStatement 2, textFlashbackScan] Backend.start World.started =
      some "7".toList := by decide +kernel
  cases call with
  | execute hstmt params =>
    have hparams : params = [(1, some "8".toList)] := by simpa using htest
    have hown := h _ [] 0 _ b w rfl hrun hrecorded hstmt params rc hmem
    rw [hparams] at hown
    exact absurd hown (by decide)
  | _ => cases htest

end TiberoFdw
