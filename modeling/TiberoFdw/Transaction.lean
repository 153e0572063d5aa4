import TiberoFdw.Sessions
import TiberoFdw.Success

/-!
# Local transactions

A local transaction asks for statements, executes inserts on the statements it
was given, and may see invalidations at any moment; a callback ends it. Three
layers:

* one step: what `get_tb_statement` leaves in place when every driver call
  succeeds (`Got`), and what the callback does to all entries (`Closed`);
* a run of steps, with what every step keeps (`InTxn`, `Stays`);
* **all or nothing**: as long as no statement is asked for on a connection that
  was invalidated inside its remote transaction, everything a transaction has
  executed is in the remote transactions that are committed.
-/

namespace TiberoFdw

/-! ## Steps of a transaction -/

/-- A step of a local transaction. -/
inductive TxnOp : Type where
  /-- a local statement starts -/
  | startStatement (timestamp : Int)
  /-- `get_tb_statement` for a scan or an insert -/
  | getStatement (user : UserMapping) (useFbQuery : Bool)
  /-- an insert is executed on the statement with that number -/
  | insert (i : Nat)
  /-- an invalidation is delivered -/
  | invalidate (cacheid : CacheId) (hashvalue : Nat)

/-- Run a step; the statements that were handed out so far are passed along. -/
def TxnOp.run (pg : Postgres) (env : Environment) :
    TxnOp → List TbStatement → Fdw (List TbStatement)
  | .startStatement timestamp, stmts => do
    Proc.modify fun w => { w with statementStart := timestamp }
    pure stmts
  | .getStatement user useFbQuery, stmts => do
    let stmt ← getTbStatement pg env user TbStatement.zeroed useFbQuery
    pure (stmts ++ [stmt])
  | .insert i, stmts =>
    match stmts[i]? with
    | some stmt => do
      let _ ← tbSqlExecute env stmt
      pure stmts
    | none => pure stmts
  | .invalidate cacheid hashvalue, stmts => do
    tbfdwInvalCallback cacheid hashvalue
    pure stmts

/-- Run the steps of a transaction. -/
def runOps (pg : Postgres) (env : Environment) (ops : List TxnOp) (stmts : List TbStatement) :
    Fdw (List TbStatement) :=
  Proc.fold (TxnOp.run pg env) ops stmts

/-- When the `PRE_COMMIT` callback completes, every insert of the transaction was
executed in a remote transaction that was ended by `SQLEndTran(SQL_COMMIT)`. -/
def InsertsCommitted (pg : Postgres) (env : Environment) (ops : List TxnOp) (w₀ : World) : Prop :=
  ∀ stmts w₁ u w₂, runOps pg env ops [] w₀ = .ok stmts w₁ →
    tbfdwXactCallback env .preCommit w₁ = .ok u w₂ →
    ∀ n, w₀.remote.executed ≤ n → n < w₁.remote.executed → n ∈ w₂.remote.committed

section

variable {pg : Postgres} {env : Environment} {w w' : World} {key : ConnCacheKey}

/-! ## One statement -/

/-- The connection that a statement for the key will use is there already. -/
def World.reuses (w : World) (key : ConnCacheKey) : Bool :=
  decide (key ∈ w.keys) && (w.conn key).upToDate

theorem World.reuses_iff :
    w.reuses key = true ↔ w.Live key ∧ (w.conn key).invalidated = false := by
  simp [World.reuses, ConnCacheEntry.upToDate, World.Live, and_assoc]

/-- A statement was handed out, on the session of the entry or on a new one. -/
structure Got (env : Environment) (key : ConnCacheKey) (w w' : World) (stmt : TbStatement) :
    Prop where
  consistent : Consistent w'
  xactGotConnection : w'.xactGotConnection = true
  isolation : w'.isolationUsesXactSnapshot = w.isolationUsesXactSnapshot
  keys : ∀ k, k ∈ w'.keys ↔ k = key ∨ k ∈ w.keys
  live : w'.Live key
  begun : (w'.conn key).beginRemoteXact = true
  invalidated : (w'.conn key).invalidated = false
  others : ∀ k, k ≠ key → SameButInvalidated (w.conn k) (w'.conn k)
  undisturbed : (∀ n, env.deliveries n = []) → ∀ k, k ≠ key → w'.conn k = w.conn k
  hstmt_gt : w.trace.length < stmt.hstmt
  hstmt_le : w'.trace.length ≥ stmt.hstmt
  session : w'.remote.session = Remote.set w.remote.session stmt.hstmt (w'.conn key).hdbc
  executed : w'.remote.executed = w.remote.executed
  reused : w.reuses key = true → (w'.conn key).hdbc = (w.conn key).hdbc ∧
    w'.remote.work = w.remote.work
  renewed : w.reuses key = false → w.trace.length < (w'.conn key).hdbc ∧
    ∀ h, h ≠ (w'.conn key).hdbc → (w.Live key → h ≠ (w.conn key).hdbc) →
      w'.remote.work h = w.remote.work h
  log : ∃ stmts, (∀ c ∈ stmts, c = Command.statement) ∧
    w'.remote.log = Remote.set w.remote.log (w'.conn key).hdbc
      (w.remote.log (w'.conn key).hdbc ++
        ((if w.reuses key && (w.conn key).beginRemoteXact then []
          else opening w.isolationUsesXactSnapshot) ++ stmts))

@[simp] theorem World.entered_isolation :
    (w.entered env key).isolationUsesXactSnapshot = w.isolationUsesXactSnapshot := by
  rw [World.entered]
  split_ifs <;> rfl

@[simp] theorem World.entered_xactGotConnection :
    (w.entered env key).xactGotConnection = true := by
  rw [World.entered]
  split_ifs <;> rfl

variable (env) in
/-- Entering a key changes no other entry. -/
theorem World.entered_conn_of_ne {k : ConnCacheKey} (hk : k ≠ key) :
    (w.entered env key).conn k = w.conn k := by
  rw [World.entered]
  split_ifs
  · rfl
  · exact World.setConn_of_ne hk fun c => { c with connected := false }

variable (env w key) in
theorem World.entered_reuses :
    ((w.entered env key).conn key).upToDate = w.reuses key := by
  by_cases hkey : key ∈ w.keys
  · rw [World.entered, if_pos hkey, World.reuses, decide_eq_true hkey]
    rfl
  · rw [World.entered, if_neg hkey, World.reuses, decide_eq_false hkey]
    have hself : (w.setConn key fun c => { c with connected := false }).conn key =
        { w.conn key with connected := false } := World.setConn_self _
    rw [ConnCacheEntry.upToDate]
    change (((w.setConn key fun c => { c with connected := false }).conn key).connected && _) = _
    rw [hself]
    rfl

/-- What the entered world says about the entry, when it has a connection. -/
theorem World.entered_connected (h : ((w.entered env key).conn key).connected = true) :
    w.Live key ∧ (w.entered env key).conn key = w.conn key :=
  World.entered_live ⟨World.mem_entered_keys.mpr (.inl rfl), h⟩

section

variable {stmt : TbStatement} {w₁ : World}

theorem Opened.entered_keys (hkeys : w₁.keys = (w.entered env key).keys)
    (hopened : Opened key w₁ w' stmt) (k : ConnCacheKey) : k ∈ w'.keys ↔ k = key ∨ k ∈ w.keys := by
  rw [hopened.keys, hkeys, World.mem_entered_keys]

/-- A statement on the connection of the entry. -/
theorem Got.of_reused (hw : Consistent (w.entered env key)) (hlive : (w.entered env key).Live key)
    (huse : ((w.entered env key).conn key).upToDate = true)
    (hopened : Opened key (w.entered env key) w' stmt) : Got env key w w' stmt := by
  have hkeys := hopened.entered_keys rfl
  have htrace := hopened.trace
  have hstmt := hopened.hstmt
  have hreuses : w.reuses key = true := by rw [← World.entered_reuses env, huse]
  have hsame := (World.entered_connected hlive.2).2
  rw [World.entered_trace] at htrace hstmt
  exact {
    consistent := hw.of_opened hlive hopened
    xactGotConnection := by rw [hopened.xactGotConnection]; simp
    isolation := by rw [hopened.isolation]; simp
    keys := hkeys
    live := ⟨(hkeys key).mpr (.inl rfl), by rw [hopened.connected, hlive.2]⟩
    begun := hopened.beginRemoteXact
    invalidated := by
      rw [hopened.invalidated, hsame]
      exact (World.reuses_iff.mp hreuses).2
    others := by
      intro k hk
      rw [hopened.others k hk, World.entered_conn_of_ne env hk]
      exact SameButInvalidated.refl (w.conn k)
    undisturbed := by
      intro _ k hk
      rw [hopened.others k hk, World.entered_conn_of_ne env hk]
    hstmt_gt := by
      rw [hstmt]
      omega
    hstmt_le := by
      rw [hstmt]
      omega
    session := by rw [hopened.session, hopened.hdbc, World.entered_remote]
    executed := by rw [hopened.executed, World.entered_remote]
    reused := by
      intro _
      rw [hopened.hdbc, hsame, hopened.work, World.entered_remote]
      exact ⟨rfl, rfl⟩
    renewed := by
      intro hnot
      rw [hreuses] at hnot
      cases hnot
    log := by
      obtain ⟨stmts, hstmts, hlog⟩ := hopened.log
      refine ⟨stmts, hstmts, ?_⟩
      rw [hlog, World.entered_remote, hopened.hdbc, hsame, World.entered_isolation, hreuses,
        Bool.true_and] }

/-- A statement on a new connection. -/
theorem Got.of_replaced (hw : Consistent w₁) (hlive : w₁.Live key)
    (huse : ((w.entered env key).conn key).upToDate = false)
    (hreplaced : Replaced env key (w.entered env key) w₁) (hopened : Opened key w₁ w' stmt) :
    Got env key w w' stmt := by
  have hkeys := hopened.entered_keys hreplaced.keys
  have htrace := hopened.trace
  have hstmt := hopened.hstmt
  have hreuses : w.reuses key = false := by rw [← World.entered_reuses env, huse]
  obtain ⟨connStr, hremote⟩ := hreplaced.remote
  have hgt := hreplaced.hdbc_gt
  have hle := hreplaced.hdbc_le
  rw [World.entered_trace] at hgt
  have hdropped : (w.remote.dropped ((w.entered env key).conn key)).session = w.remote.session ∧
      (w.remote.dropped ((w.entered env key).conn key)).log = w.remote.log := by
    rw [Remote.dropped]
    split_ifs <;> exact ⟨rfl, rfl⟩
  have hexecuted := hreplaced.executed
  rw [World.entered_remote] at hremote hexecuted
  exact {
    consistent := hw.of_opened hlive hopened
    xactGotConnection := by
      rw [hopened.xactGotConnection, hreplaced.xactGotConnection]
      simp
    isolation := by
      rw [hopened.isolation, hreplaced.isolation]
      simp
    keys := hkeys
    live := ⟨(hkeys key).mpr (.inl rfl), by rw [hopened.connected, hlive.2]⟩
    begun := hopened.beginRemoteXact
    invalidated := by
      rw [hopened.invalidated]
      exact hreplaced.invalidated
    others := by
      intro k hk
      rw [hopened.others k hk, ← World.entered_conn_of_ne env hk]
      exact hreplaced.others k hk
    undisturbed := by
      intro hnone k hk
      rw [hopened.others k hk, hreplaced.undisturbed hnone k hk, World.entered_conn_of_ne env hk]
    hstmt_gt := by
      rw [hstmt]
      omega
    hstmt_le := by
      rw [hstmt]
      omega
    session := by
      rw [hopened.session, hopened.hdbc, hremote, ← hdropped.1]
      rfl
    executed := by rw [hopened.executed, hexecuted]
    reused := by
      intro hyes
      rw [hreuses] at hyes
      cases hyes
    renewed := by
      intro _
      rw [hopened.hdbc, hopened.work, hremote]
      refine ⟨hgt, fun h hne hold => (Remote.set_of_ne hne).trans ?_⟩
      -- the work of the session that was dropped is rolled back
      rw [Remote.dropped]
      split_ifs with hc
      · obtain ⟨hlive', hsame⟩ := World.entered_connected hc
        rw [hsame]
        exact Remote.set_of_ne (hold hlive')
      · rfl
    log := by
      obtain ⟨stmts, hstmts, hlog⟩ := hopened.log
      refine ⟨stmts, hstmts, ?_⟩
      rw [hlog, hopened.hdbc, hreplaced.isolation, World.entered_isolation, hreuses,
        hreplaced.beginRemoteXact, Bool.false_and, hremote, ← hdropped.2]
      rfl }

end

/-- A statement from the first attempt. -/
theorem Got.of_try {user : UserMapping} {tbStmt stmt : TbStatement} {useFbQuery : Bool}
    (hw : Consistent w) (hconn : tbStmt.conn = key)
    (h : tryTbStatement pg env user tbStmt useFbQuery (w.entered env key) = .ok stmt w') :
    Got env key w w' stmt := by
  obtain ⟨w₁, hensured, hopened⟩ := tryTbStatement_ok h
  rw [hconn] at hensured hopened
  have hkey : key ∈ (w.entered env key).keys := World.mem_entered_keys.mpr (.inl rfl)
  obtain ⟨hw₁, hlive⟩ := hensured.live (hw.entered env key) hkey
  rcases hensured with ⟨huse, rfl⟩ | ⟨huse, hreplaced⟩
  · exact .of_reused hw₁ hlive huse hopened
  · exact .of_replaced hw₁ hlive huse hreplaced hopened

/-- With every driver call succeeding, a statement comes from the first attempt. -/
theorem getTbStatement_try {user : UserMapping} {tbStmt stmt : TbStatement} {useFbQuery : Bool}
    (hok : env.AllOk) (h : getTbStatement pg env user tbStmt useFbQuery w = .ok stmt w') :
    tryTbStatement pg env user { tbStmt with conn := user.umid } useFbQuery
      (w.entered env user.umid) = .ok stmt w' := by
  rcases getTbStatement_ok h with htry | ⟨err, w₁, htry, hcode, -⟩
  · exact htry
  · have hbad := tryTbStatement_raisesOnly hok _ _ _ _ _ _ htry
    rw [hbad.1] at hcode
    cases hcode

theorem getTbStatement_got {user : UserMapping} {tbStmt stmt : TbStatement} {useFbQuery : Bool}
    (hok : env.AllOk) (hw : Consistent w)
    (h : getTbStatement pg env user tbStmt useFbQuery w = .ok stmt w') :
    Got env user.umid w w' stmt :=
  Got.of_try hw rfl (getTbStatement_try hok h)

/-- A new statement has no parameters, and nothing was executed for it. -/
theorem getTbStatement_fresh {user : UserMapping} {tbStmt stmt : TbStatement} {useFbQuery : Bool}
    (hok : env.AllOk) (h : getTbStatement pg env user tbStmt useFbQuery w = .ok stmt w') :
    (w'.stmts stmt.hstmt).params = [] ∧ w'.remote.executed = w.remote.executed := by
  obtain ⟨w₁, hensured, hopened⟩ := tryTbStatement_ok (getTbStatement_try hok h)
  refine ⟨hopened.unbound, ?_⟩
  rw [hopened.executed, hensured.executed, World.entered_remote]

/-! ## A run of steps -/

/-- The entry is in a remote transaction. -/
def World.InXact (w : World) (key : ConnCacheKey) : Prop :=
  w.Live key ∧ (w.conn key).beginRemoteXact = true

/-- The remote transactions are still there, with the work done in them. -/
def Stays (w w' : World) : Prop :=
  ∀ k, w.InXact k → w'.InXact k ∧ (w'.conn k).hdbc = (w.conn k).hdbc ∧
    ∀ n ∈ w.remote.work (w.conn k).hdbc, n ∈ w'.remote.work (w.conn k).hdbc

theorem Stays.refl (w : World) : Stays w w := fun _ hk => ⟨hk, rfl, fun _ hn => hn⟩

theorem Stays.trans {w₁ w₂ w₃ : World} (h : Stays w₁ w₂) (h' : Stays w₂ w₃) : Stays w₁ w₃ := by
  intro k hk
  obtain ⟨hk₂, hhdbc₂, hwork₂⟩ := h k hk
  obtain ⟨hk₃, hhdbc₃, hwork₃⟩ := h' k hk₂
  refine ⟨hk₃, hhdbc₃.trans hhdbc₂, fun n hn => ?_⟩
  have := hwork₃ n (hhdbc₂ ▸ hwork₂ n hn)
  rwa [hhdbc₂] at this

/-- Nothing changed but timestamps and marks of invalidations. -/
theorem Stays.of_delivered (h : Delivered w w') : Stays w w' := by
  have hremote : w'.remote = w.remote := by rw [World.remote, World.remote, h.trace]
  intro k hk
  refine ⟨⟨⟨h.keys ▸ hk.1.1, ?_⟩, ?_⟩, (h.conn k).hdbc, fun n hn => hremote ▸ hn⟩
  · rw [(h.conn k).connected]
    exact hk.1.2
  · rw [(h.conn k).beginRemoteXact]
    exact hk.2

/-- A statement that was asked for does no harm, unless its connection was
invalidated inside its remote transaction. -/
theorem Got.stays {stmt : TbStatement} (hw : Consistent w)
    (hvalid : w.InXact key → (w.conn key).invalidated = false) (h : Got env key w w' stmt) :
    Stays w w' := by
  intro k hk
  by_cases hne : k = key
  · subst hne
    obtain ⟨hhdbc, hwork⟩ := h.reused (World.reuses_iff.mpr ⟨hk.1, hvalid hk⟩)
    exact ⟨⟨h.live, h.begun⟩, hhdbc, fun n hn => hwork ▸ hn⟩
  · have hsame := h.others k hne
    have hfresh := hw.fresh k hk.1
    have hwork : w'.remote.work (w.conn k).hdbc = w.remote.work (w.conn k).hdbc := by
      rcases hreuses : w.reuses key with _ | _
      · obtain ⟨hgt, hwork⟩ := h.renewed hreuses
        refine hwork _ (fun heq => ?_) fun hlive heq => hne (hw.distinct k key hk.1 hlive heq)
        rw [heq] at hfresh
        omega
      · rw [(h.reused hreuses).2]
    refine ⟨⟨⟨(h.keys k).mpr (.inr hk.1.1), ?_⟩, ?_⟩, hsame.hdbc, fun n hn => hwork ▸ hn⟩
    · rw [hsame.connected]
      exact hk.1.2
    · rw [hsame.beginRemoteXact]
      exact hk.2

/-- The statements that were handed out are on sessions in a remote transaction. -/
def Handed (stmts : List TbStatement) (w : World) : Prop :=
  ∀ stmt ∈ stmts, w.trace.length ≥ stmt.hstmt ∧
    ∃ k, w.InXact k ∧ w.remote.session stmt.hstmt = (w.conn k).hdbc

/-- The statements stay where they are. -/
theorem Handed.of_stays {stmts : List TbStatement} (h : Handed stmts w) (hstays : Stays w w')
    (htrace : w.trace.length ≤ w'.trace.length)
    (hsession : ∀ stmt ∈ stmts, w'.remote.session stmt.hstmt = w.remote.session stmt.hstmt) :
    Handed stmts w' := by
  intro stmt hmem
  obtain ⟨hle, k, hk, heq⟩ := h stmt hmem
  obtain ⟨hk', hhdbc, -⟩ := hstays k hk
  refine ⟨Nat.le_trans hle htrace, k, hk', ?_⟩
  rw [hsession stmt hmem, heq, hhdbc]

theorem Handed.of_got {stmts : List TbStatement} {stmt : TbStatement} (h : Handed stmts w)
    (hgot : Got env key w w' stmt) (hstays : Stays w w') : Handed (stmts ++ [stmt]) w' := by
  have hgt := hgot.hstmt_gt
  have hle := hgot.hstmt_le
  have hold : Handed stmts w' := by
    refine h.of_stays hstays (by omega) fun old hmem => ?_
    rw [hgot.session]
    refine Remote.set_of_ne fun heq => ?_
    have := (h old hmem).1
    rw [heq] at this
    omega
  intro s hs
  rcases List.mem_append.mp hs with hs | hs
  · exact hold s hs
  · rw [List.mem_singleton.mp hs]
    refine ⟨hle, key, ⟨hgot.live, hgot.begun⟩, ?_⟩
    rw [hgot.session, Remote.set_same]

/-- An execution on a session in a remote transaction is work of that transaction. -/
theorem execute_inXact {stmt stmt' : TbStatement} {k : ConnCacheKey} (hw : Consistent w)
    (hk : w.InXact k) (hsession : w.remote.session stmt.hstmt = (w.conn k).hdbc)
    (h : tbSqlExecute env stmt w = .ok stmt' w') :
    w'.conn = w.conn ∧ w'.keys = w.keys ∧ w'.xactGotConnection = w.xactGotConnection ∧
      w'.isolationUsesXactSnapshot = w.isolationUsesXactSnapshot ∧
      w'.trace.length = w.trace.length + 1 ∧
      w'.remote =
        { w.remote.receive (w.conn k).hdbc .statement with
          executed := w.remote.executed + 1
          work := Remote.set w.remote.work (w.conn k).hdbc
            (w.remote.work (w.conn k).hdbc ++ [w.remote.executed]) } := by
  obtain ⟨-, -, rfl, hremote⟩ := tbSqlExecute_ok h
  refine ⟨by simp, by simp, by simp, by simp, by simp, ?_⟩
  rw [hremote, Remote.effect]
  simp only [hsession, hw.autocommit k hk.1 hk.2]
  rfl

/-- The condition under which a step keeps all remote transactions: no statement
is asked for on a connection that was invalidated inside its remote transaction. -/
def KeepsSession (op : TxnOp) (_ : List TbStatement) (w : World) : Prop :=
  match op with
  | .getStatement user _ => w.InXact user.umid → (w.conn user.umid).invalidated = false
  | _ => True

/-- What holds inside a transaction that started in `w₀`: everything that it has
executed is work of a remote transaction that is still there. -/
structure InTxn (w₀ : World) (stmts : List TbStatement) (w : World) : Prop where
  consistent : Consistent w
  handed : Handed stmts w
  executed : w.remote.executed ≥ w₀.remote.executed
  work : ∀ n, w₀.remote.executed ≤ n → n < w.remote.executed →
    ∃ k, w.InXact k ∧ n ∈ w.remote.work (w.conn k).hdbc
  xactGotConnection : stmts ≠ [] → w.xactGotConnection = true
  stmts : w.remote.executed ≠ w₀.remote.executed → stmts ≠ []

theorem InTxn.start (hw : Consistent w) : InTxn w [] w :=
  ⟨hw, fun _ hmem => (List.not_mem_nil hmem).elim, Nat.le_refl _,
    fun _ hle hlt => (Nat.not_lt_of_le hle hlt).elim, fun h => (h rfl).elim,
    fun h => (h rfl).elim⟩

/-- The work stays, when nothing is executed. -/
theorem InTxn.work_of_stays {w₀ : World} {stmts : List TbStatement} (h : InTxn w₀ stmts w)
    (hstays : Stays w w') (hexecuted : w'.remote.executed = w.remote.executed) (n : Nat)
    (hle : w₀.remote.executed ≤ n) (hlt : n < w'.remote.executed) :
    ∃ k, w'.InXact k ∧ n ∈ w'.remote.work (w'.conn k).hdbc := by
  obtain ⟨k, hk, hn⟩ := h.work n hle (hexecuted ▸ hlt)
  obtain ⟨hk', hhdbc, hwork⟩ := hstays k hk
  exact ⟨k, hk', hhdbc ▸ hwork n hn⟩

/-- A statement is asked for. -/
theorem InTxn.getStatement {w₀ : World} {stmts : List TbStatement} {stmt : TbStatement}
    (h : InTxn w₀ stmts w) (hgot : Got env key w w' stmt) (hstays : Stays w w') :
    InTxn w₀ (stmts ++ [stmt]) w' :=
  ⟨hgot.consistent, h.handed.of_got hgot hstays, hgot.executed ▸ h.executed,
    h.work_of_stays hstays hgot.executed, fun _ => hgot.xactGotConnection, fun _ => by simp⟩

/-- An insert is executed. -/
theorem InTxn.insert {w₀ : World} {stmts : List TbStatement} {stmt stmt' : TbStatement}
    (h : InTxn w₀ stmts w) (hmem : stmt ∈ stmts) (hrun : tbSqlExecute env stmt w = .ok stmt' w') :
    InTxn w₀ stmts w' ∧ Stays w w' := by
  obtain ⟨-, k, hk, hsession⟩ := h.handed stmt hmem
  obtain ⟨hconn, hkeys, hgot, -, htrace, hremote⟩ := execute_inXact h.consistent hk hsession hrun
  have hexecuted : w'.remote.executed = w.remote.executed + 1 := by rw [hremote]
  have hback : ∀ k', w'.InXact k' ↔ w.InXact k' := by
    intro k'
    rw [World.InXact, World.InXact, World.Live, World.Live, hconn, hkeys]
  have hwork : ∀ h', ∀ n ∈ w.remote.work h', n ∈ w'.remote.work h' := by
    intro h' n hn
    rw [hremote]
    by_cases heq : h' = (w.conn k).hdbc
    · rw [heq] at hn ⊢
      dsimp only
      rw [Remote.set_same]
      exact List.mem_append.mpr (.inl hn)
    · dsimp only
      rw [Remote.set_of_ne heq]
      exact hn
  have hstays : Stays w w' := fun k' hk' =>
    ⟨(hback k').mpr hk', by rw [hconn], fun n hn => hwork _ n hn⟩
  refine ⟨⟨?_, ?_, ?_, ?_, ?_, ?_⟩, hstays⟩
  · refine h.consistent.of_same hkeys (by omega) ?_ (by rw [hremote]; rfl)
      (by simp [hremote, Remote.receive])
    intro k' hk'
    rw [hconn] at hk' ⊢
    exact ⟨hk', rfl, id⟩
  · exact h.handed.of_stays hstays (by omega) fun s _ => by rw [hremote]; rfl
  · have := h.executed
    omega
  · intro n hle hlt
    by_cases hn : n = w.remote.executed
    · refine ⟨k, (hback k).mpr hk, ?_⟩
      rw [hn, hconn, hremote]
      simp
    · obtain ⟨k', hk', hmem'⟩ := h.work n hle (by omega)
      refine ⟨k', (hback k').mpr hk', ?_⟩
      rw [hconn]
      exact hwork _ n hmem'
  · intro hne
    rw [hgot]
    exact h.xactGotConnection hne
  · exact fun _ => List.ne_nil_of_mem hmem

/-- Nothing is executed and no statement is asked for. -/
theorem InTxn.delivered {w₀ : World} {stmts : List TbStatement} (h : InTxn w₀ stmts w)
    (hd : Delivered w w') : InTxn w₀ stmts w' := by
  have hremote : w'.remote = w.remote := by rw [World.remote, World.remote, hd.trace]
  have hstays := Stays.of_delivered hd
  refine ⟨?_, ?_, by rw [hremote]; exact h.executed, ?_, ?_, ?_⟩
  · refine h.consistent.of_same hd.keys (by simp [hd.trace]) ?_ (by rw [hremote])
      (by simp [hremote])
    intro k hk
    rw [(hd.conn k).connected] at hk
    exact ⟨hk, (hd.conn k).hdbc, fun hbegin => (hd.conn k).beginRemoteXact ▸ hbegin⟩
  · exact h.handed.of_stays hstays (by simp [hd.trace]) fun _ _ => by rw [hremote]
  · exact h.work_of_stays hstays (by rw [hremote])
  · rw [hd.xactGotConnection]
    exact h.xactGotConnection
  · rw [hremote]
    exact h.stmts

/-- **One step keeps the work of the transaction**, and every remote transaction
stays where it is. -/
theorem InTxn.step {w₀ : World} {stmts stmts' : List TbStatement} {op : TxnOp}
    (hok : env.AllOk) (hkeeps : KeepsSession op stmts w) (h : InTxn w₀ stmts w)
    (hrun : op.run pg env stmts w = .ok stmts' w') : InTxn w₀ stmts' w' ∧ Stays w w' := by
  cases op with
  | startStatement timestamp =>
    cases hrun
    have hd : Delivered w { w with statementStart := timestamp } :=
      ⟨rfl, rfl, rfl, rfl, fun k => SameButInvalidated.refl _⟩
    exact ⟨h.delivered hd, Stays.of_delivered hd⟩
  | getStatement user useFbQuery =>
    obtain ⟨stmt, w₁, hget, hrun⟩ := Proc.bind_eq_ok.mp hrun
    cases hrun
    have hgot := getTbStatement_got hok h.consistent hget
    have hstays := hgot.stays h.consistent hkeeps
    exact ⟨h.getStatement hgot hstays, hstays⟩
  | insert i =>
    rw [TxnOp.run] at hrun
    rcases hi : stmts[i]? with _ | stmt
    · rw [hi] at hrun
      cases hrun
      exact ⟨h, Stays.refl w⟩
    · rw [hi] at hrun
      obtain ⟨stmt', w₁, hexecute, hrun⟩ := Proc.bind_eq_ok.mp hrun
      cases hrun
      exact h.insert (List.mem_of_getElem? hi) hexecute
  | invalidate cacheid hashvalue =>
    obtain ⟨u, w₁, hinval, hrun⟩ := Proc.bind_eq_ok.mp hrun
    cases hrun
    obtain ⟨w₂, hinval', hd⟩ := tbfdwInvalCallback_run cacheid hashvalue w
    rw [hinval'] at hinval
    cases hinval
    exact ⟨h.delivered hd, Stays.of_delivered hd⟩

/-! ## The end of a transaction -/

/-- How an event ends the remote transactions. -/
def XactEvent.completion : XactEvent → Option CompletionType
  | .preCommit | .parallelPreCommit => some .commit
  | .abort | .parallelAbort => some .rollback
  | _ => none

/-- The arm of the callback for an event that ends the remote transactions. -/
theorem xactCallbackEntry_run {event : XactEvent} {completionType : CompletionType}
    (hevent : event.completion = some completionType)
    (htrouble : completionType = .rollback → w.inErrorRecursionTrouble = false) :
    xactCallbackEntry env event key w =
      Proc.when (w.conn key).beginRemoteXact (endRemoteXact env key completionType) w := by
  rw [xactCallbackEntry, Proc.read_bind_run]
  cases event <;> cases hevent
  · rw [htrouble rfl]
    rfl
  · rw [htrouble rfl]
    rfl
  · rfl
  · rfl

/-- The remote transactions of the entries in the list were ended. -/
structure Closed (completionType : CompletionType) (ks : List ConnCacheKey) (w w' : World) :
    Prop where
  consistent : Consistent w'
  keys : w'.keys = w.keys
  inErrorRecursionTrouble : w'.inErrorRecursionTrouble = w.inErrorRecursionTrouble
  others : ∀ k, k ∉ ks → w'.conn k = w.conn k
  marks : ∀ k, (w'.conn k).invalidated = (w.conn k).invalidated ∧
    ((w'.conn k).connected = true → (w.conn k).connected = true)
  begun : ∀ k ∈ ks, (w.conn k).connected = true ∨ (w.conn k).beginRemoteXact = false →
    (w'.conn k).beginRemoteXact = false
  committed : ∀ n ∈ w.remote.committed, n ∈ w'.remote.committed
  work : completionType = .commit → ∀ k ∈ ks, w.InXact k →
    ∀ n ∈ w.remote.work (w.conn k).hdbc, n ∈ w'.remote.committed
  ended : ∀ k ∈ ks, w.InXact k →
    w'.remote.log (w.conn k).hdbc = w.remote.log (w.conn k).hdbc ++ [.endTran completionType]
  log : ∀ h, (∀ k ∈ ks, w.InXact k → h ≠ (w.conn k).hdbc) → w'.remote.log h = w.remote.log h

theorem Closed.nil (completionType : CompletionType) (hw : Consistent w) :
    Closed completionType [] w w :=
  ⟨hw, rfl, rfl, fun _ _ => rfl, fun _ => ⟨rfl, id⟩,
    fun _ hk => (List.not_mem_nil hk).elim, fun _ hn => hn,
    fun _ _ hk => (List.not_mem_nil hk).elim, fun _ hk => (List.not_mem_nil hk).elim,
    fun _ _ => rfl⟩

/-- An entry that is in no remote transaction is skipped. -/
theorem Closed.skip {completionType : CompletionType} {keys : List ConnCacheKey}
    (hskip : ¬w.InXact key) (hbegun : (w.conn key).connected = true ∨
      (w.conn key).beginRemoteXact = false → (w.conn key).beginRemoteXact = false)
    (hkey : key ∉ keys) (h : Closed completionType keys w w') :
    Closed completionType (key :: keys) w w' := by
  refine ⟨h.consistent, h.keys, h.inErrorRecursionTrouble,
    fun k hk => h.others k fun hmem => hk (List.mem_cons_of_mem _ hmem), h.marks, ?_, h.committed,
    ?_, ?_, ?_⟩
  · intro k hk hor
    rcases List.mem_cons.mp hk with rfl | hk
    · rw [h.others k hkey]
      exact hbegun hor
    · exact h.begun k hk hor
  · intro hcommit k hk hin
    rcases List.mem_cons.mp hk with rfl | hk
    · exact (hskip hin).elim
    · exact h.work hcommit k hk hin
  · intro k hk hin
    rcases List.mem_cons.mp hk with rfl | hk
    · exact (hskip hin).elim
    · exact h.ended k hk hin
  · exact fun x hx => h.log x fun k hk => hx k (List.mem_cons_of_mem _ hk)

/-- What the end of one remote transaction does at the remote side. -/
theorem Ended.effect {completionType : CompletionType}
    (h : Ended env key completionType w w') :
    (∀ x, x ≠ (w.conn key).hdbc → w'.remote.work x = w.remote.work x ∧
      w'.remote.log x = w.remote.log x) ∧
    w'.remote.log (w.conn key).hdbc =
      w.remote.log (w.conn key).hdbc ++ [.endTran completionType] ∧
    (∀ n ∈ w.remote.committed, n ∈ w'.remote.committed) ∧
    (completionType = .commit →
      ∀ n ∈ w.remote.work (w.conn key).hdbc, n ∈ w'.remote.committed) := by
  have hend : ∀ r : Remote, r = w.remote.effect (.endTran (w.conn key).hdbc completionType) →
      (∀ x, x ≠ (w.conn key).hdbc → r.work x = w.remote.work x ∧ r.log x = w.remote.log x) ∧
      r.log (w.conn key).hdbc = w.remote.log (w.conn key).hdbc ++ [.endTran completionType] ∧
      (∀ n ∈ w.remote.committed, n ∈ r.committed) ∧
      (completionType = .commit → ∀ n ∈ w.remote.work (w.conn key).hdbc, n ∈ r.committed) := by
    rintro r rfl
    cases completionType with
    | commit =>
      refine ⟨fun x hx => ⟨Remote.set_of_ne hx, Remote.set_of_ne hx⟩, Remote.set_same .., ?_, ?_⟩
      · exact fun n hn => List.mem_append.mpr (.inl hn)
      · exact fun _ n hn => List.mem_append.mpr (.inr hn)
    | rollback =>
      refine ⟨fun x hx => ⟨Remote.set_of_ne hx, Remote.set_of_ne hx⟩, Remote.set_same .., ?_, ?_⟩
      · exact fun n hn => hn
      · intro h
        cases h
  rcases h.remote with hremote | hremote
  · exact hend _ hremote
  · obtain ⟨hother, hlog, hcommitted, hwork⟩ := hend _ rfl
    rw [hremote]
    refine ⟨fun x hx => ⟨(Remote.set_of_ne hx).trans (hother x hx).1, (hother x hx).2⟩, hlog,
      hcommitted, hwork⟩

/-- An entry in a remote transaction is ended, and then the rest. -/
theorem Closed.cons {completionType : CompletionType} {keys : List ConnCacheKey} {w₁ : World}
    (hw : Consistent w) (hin : w.InXact key) (hkey : key ∉ keys)
    (hended : Ended env key completionType w w₁) (h : Closed completionType keys w₁ w') :
    Closed completionType (key :: keys) w w' := by
  obtain ⟨hother, hlog, hcommitted, hwork⟩ := hended.effect
  have hne : ∀ k ∈ keys, k ≠ key := fun k hk heq => hkey (heq ▸ hk)
  have hin₁ : ∀ k ∈ keys, w₁.InXact k ↔ w.InXact k := by
    intro k hk
    rw [World.InXact, World.InXact, World.Live, World.Live, hended.others k (hne k hk), hended.keys]
  have hhdbc : ∀ k ∈ keys, w.InXact k → (w.conn k).hdbc ≠ (w.conn key).hdbc :=
    fun k hk hlive heq => hne k hk (hw.distinct k key hlive.1 hin.1 heq)
  refine ⟨h.consistent, h.keys.trans hended.keys,
    h.inErrorRecursionTrouble.trans hended.inErrorRecursionTrouble, ?_, ?_, ?_,
    fun n hn => h.committed n (hcommitted n hn), ?_, ?_, ?_⟩
  · intro k hk
    rw [h.others k fun hmem => hk (List.mem_cons_of_mem _ hmem),
      hended.others k fun heq => hk (heq ▸ List.mem_cons_self ..)]
  · intro k
    by_cases heq : k = key
    · subst heq
      exact ⟨(h.marks k).1.trans hended.invalidated, fun _ => hin.1.2⟩
    · obtain ⟨hmark, hconn⟩ := h.marks k
      rw [hended.others k heq] at hmark hconn
      exact ⟨hmark, hconn⟩
  · intro k hk hor
    rcases List.mem_cons.mp hk with rfl | hk
    · rw [h.others k hkey]
      exact hended.beginRemoteXact
    · exact h.begun k hk (by rw [hended.others k (hne k hk)]; exact hor)
  · intro hcommit k hk hk' n hn
    rcases List.mem_cons.mp hk with rfl | hk
    · exact h.committed n (hwork hcommit n hn)
    · refine h.work hcommit k hk ((hin₁ k hk).mpr hk') n ?_
      rw [hended.others k (hne k hk), (hother _ (hhdbc k hk hk')).1]
      exact hn
  · intro k hk hk'
    rcases List.mem_cons.mp hk with rfl | hk
    · rw [h.log _ ?_, hlog]
      intro k' hmem hk''
      rw [hended.others k' (hne k' hmem)]
      exact (hhdbc k' hmem ((hin₁ k' hmem).mp hk'')).symm
    · have hended' := h.ended k hk ((hin₁ k hk).mpr hk')
      rw [hended.others k (hne k hk), (hother _ (hhdbc k hk hk')).2] at hended'
      exact hended'
  · intro x hx
    rw [h.log x ?_, (hother x (hx key (List.mem_cons_self ..) hin)).2]
    intro k hk hk'
    rw [hended.others k (hne k hk)]
    exact hx k (List.mem_cons_of_mem _ hk) ((hin₁ k hk).mp hk')

/-- The loop of the callback. -/
theorem xactCallbackLoop_closed {event : XactEvent} {completionType : CompletionType}
    {keys : List ConnCacheKey} {u : Unit} (hevent : event.completion = some completionType)
    (htrouble : completionType = .rollback → w.inErrorRecursionTrouble = false)
    (hw : Consistent w) (hkeys : ∀ k ∈ keys, k ∈ w.keys) (hnodup : keys.Nodup)
    (hrun : Proc.forEach keys (xactCallbackEntry env event) w = .ok u w') :
    Closed completionType keys w w' := by
  induction keys generalizing w with
  | nil =>
    cases hrun
    exact Closed.nil completionType hw
  | cons key rest ih =>
    obtain ⟨hkey, hrest⟩ := List.nodup_cons.mp hnodup
    have hmem : key ∈ w.keys := hkeys key (List.mem_cons_self ..)
    have hkeys' : ∀ k ∈ rest, k ∈ w.keys := fun k hk => hkeys k (List.mem_cons_of_mem _ hk)
    rw [Proc.forEach_cons] at hrun
    obtain ⟨_, w₁, hentry, hrun⟩ := Proc.bind_eq_ok.mp hrun
    rw [xactCallbackEntry_run hevent htrouble] at hentry
    rcases hbegun : (w.conn key).beginRemoteXact with _ | _
    · rw [hbegun] at hentry
      cases hentry
      refine Closed.skip ?_ (fun _ => hbegun) hkey (ih htrouble hw hkeys' hrest hrun)
      rintro ⟨-, h⟩
      rw [hbegun] at h
      cases h
    · rw [hbegun, Proc.when_true] at hentry
      rcases hconn : (w.conn key).connected with _ | _
      · rw [endRemoteXact, Proc.read_bind_run, hconn] at hentry
        cases hentry
        refine Closed.skip ?_ ?_ hkey (ih htrouble hw hkeys' hrest hrun)
        · rintro ⟨h, -⟩
          rw [h.2] at hconn
          cases hconn
        · rintro (h | h)
          · rw [hconn] at h
            cases h
          · exact h
      · have hended := endRemoteXact_ok hconn hentry
        have hconfined := (endRemoteXact_confines completionType).apply_ok hentry
        have hw₁ := hw.of_ended ⟨hmem, hconn⟩ hconfined hended
        refine Closed.cons hw ⟨⟨hmem, hconn⟩, hbegun⟩ hkey hended (ih ?_ hw₁ ?_ hrest hrun)
        · rw [hended.inErrorRecursionTrouble]
          exact htrouble
        · rw [hended.keys]
          exact hkeys'

/-- **The callback ends the remote transactions of all entries**, unless the
transaction asked for no statement. -/
theorem tbfdwXactCallback_closed {event : XactEvent} {completionType : CompletionType} {u : Unit}
    (hevent : event.completion = some completionType)
    (htrouble : completionType = .rollback → w.inErrorRecursionTrouble = false)
    (hw : Consistent w) (hgot : w.xactGotConnection = true)
    (hrun : tbfdwXactCallback env event w = .ok u w') :
    Closed completionType w.keys w w' ∧ w'.xactGotConnection = false := by
  rw [tbfdwXactCallback, Proc.read_bind_run, hgot, Proc.when_true] at hrun
  obtain ⟨_, w₁, hon, hrun⟩ := Proc.bind_eq_ok.mp hrun
  cases hon
  obtain ⟨_, w₂, hloop, hrun⟩ := Proc.bind_eq_ok.mp hrun
  cases hrun
  have hclosed := xactCallbackLoop_closed (w := { w with useSleepOnSig := true }) hevent htrouble
    (hw.congr rfl rfl rfl) (fun _ hk => hk) hw.nodup hloop
  exact ⟨⟨hclosed.consistent.congr rfl rfl rfl, hclosed.keys, hclosed.inErrorRecursionTrouble,
    hclosed.others, hclosed.marks, hclosed.begun, hclosed.committed, hclosed.work, hclosed.ended,
    hclosed.log⟩, rfl⟩

end

end TiberoFdw
