import TiberoFdw.Transaction

/-!
# All or nothing under invalidation

An invalidation marks the cache entry, and `get_tb_statement` replaces a marked
connection at once, also in the middle of a remote transaction: the session is
closed and its uncommitted work is gone, while the local transaction goes on and
commits. As long as that does not happen, everything that the local transaction
has executed is committed with it.
-/

namespace TiberoFdw

section

variable {pg : Postgres} {env : Environment} {w w' : World} {key : ConnCacheKey}

/-! ## Steps that end with an error -/

/-- A connection that is up to date is used as it is. -/
theorem ensureConnection_upToDate {user : UserMapping} (h : (w.conn key).upToDate = true) :
    ensureConnection pg env key user w = .ok () w := by
  rw [ConnCacheEntry.upToDate, Bool.and_eq_true, Bool.not_eq_true'] at h
  have hdrop : Proc.when ((w.conn key).connected && (w.conn key).invalidated)
      (disconnectTbServer env key) w = .ok () w := by
    rw [h.2, Bool.and_false]
    rfl
  rw [ensureConnection, Proc.read_bind_run, Proc.bind_of_ok hdrop, Proc.read_bind_run, h.1]
  rfl

/-- An error of `get_tb_statement` closes no session in a remote transaction. -/
theorem getTbStatement_raise_isOpen {user : UserMapping} {tbStmt : TbStatement} {useFbQuery : Bool}
    {e : PgError} (hok : env.AllOk) (hw : Consistent w)
    (hvalid : w.InXact user.umid → (w.conn user.umid).invalidated = false)
    (h : getTbStatement pg env user tbStmt useFbQuery w = .raise e w') {k : ConnCacheKey}
    (hk : w.InXact k) : w'.remote.isOpen (w.conn k).hdbc = true := by
  rw [getTbStatement_run] at h
  rcases htry : tryTbStatement pg env user { tbStmt with conn := user.umid } useFbQuery
      (w.entered env user.umid) with ⟨stmt, w₁⟩ | ⟨err, w₁⟩
  · rw [Proc.onError_of_ok htry] at h
    cases h
  -- the error is that of the first attempt, which has no statement yet
  have hbad := tryTbStatement_raisesOnly hok _ _ _ _ _ _ htry
  have hcode : err.sqlerrcode ≠ .fdwError := by
    rw [hbad.1]
    decide
  rw [Proc.onError_of_raise htry, if_neg hcode] at h
  cases h
  rcases Proc.bind_eq_raise.mp htry with hraise | ⟨_, w₂, -, hraise⟩
  · obtain ⟨hconfined, -⟩ := ensureConnection_raise hraise
    obtain ⟨hentered, hsame⟩ := World.entered_of_live env user.umid hk.1
    have hne : k ≠ user.umid := by
      rintro rfl
      have hreuses : w.reuses user.umid = true := World.reuses_iff.mpr ⟨hk.1, hvalid hk⟩
      rw [← World.entered_reuses env] at hreuses
      rw [ensureConnection_upToDate hreuses] at hraise
      cases hraise
    have hother : ((w.entered env user.umid).conn user.umid).connected = true →
        (w.conn k).hdbc ≠ ((w.entered env user.umid).conn user.umid).hdbc := by
      intro hc heq
      obtain ⟨hlive, hsame'⟩ := World.entered_connected hc
      rw [hsame'] at heq
      exact hne (hw.distinct k user.umid hk.1 hlive heq)
    rw [(hconfined.sessions _ hother).1, World.entered_remote]
    exact hw.isOpen k hk.1
  · exact (openStatement_raisesOnly (E := fun _ => False) hok _ _ _ _ _ hraise).elim

/-- A step that ends with an error closes no session in a remote transaction. -/
theorem TxnOp.raise_isOpen {op : TxnOp} {stmts : List TbStatement} {e : PgError} (hok : env.AllOk)
    (hkeeps : KeepsSession op stmts w) (hw : Consistent w)
    (h : op.run pg env stmts w = .raise e w') {k : ConnCacheKey} (hk : w.InXact k) :
    w'.remote.isOpen (w.conn k).hdbc = true := by
  cases op with
  | startStatement timestamp => cases h
  | getStatement user useFbQuery =>
    rcases Proc.bind_eq_raise.mp h with hraise | ⟨stmt, w₁, -, hraise⟩
    · exact getTbStatement_raise_isOpen hok hw hkeeps hraise hk
    · cases hraise
  | insert i =>
    rw [TxnOp.run] at h
    rcases hi : stmts[i]? with _ | stmt
    · rw [hi] at h
      cases h
    · rw [hi] at h
      rcases Proc.bind_eq_raise.mp h with hraise | ⟨stmt', w₁, -, hraise⟩
      · exact (tbSqlExecute_raisesOnly (E := fun _ => False) hok _ _ _ _ hraise).elim
      · cases hraise
  | invalidate cacheid hashvalue =>
    obtain ⟨w₁, hinval, -⟩ := tbfdwInvalCallback_run cacheid hashvalue w
    rcases Proc.bind_eq_raise.mp h with hraise | ⟨u, w₂, -, hraise⟩
    · rw [hinval] at hraise
      cases hraise
    · cases hraise

/-! ## The guarantee -/

/-- No session with `begin_remote_xact` is disconnected before the end of the
transaction: from any moment on, however the steps after it go, it stays open. -/
def SessionsKept (pg : Postgres) (env : Environment) (ops : List TxnOp) (w₀ : World) : Prop :=
  ∀ ops₁ ops₂ stmts₁ w₁, ops = ops₁ ++ ops₂ → runOps pg env ops₁ [] w₀ = .ok stmts₁ w₁ →
    ∀ k, w₁.InXact k →
      (runOps pg env ops₂ stmts₁ w₁).next.remote.isOpen (w₁.conn k).hdbc = true

theorem InTxn.of_runOps {w₀ : World} {ops : List TxnOp} {stmts stmts' : List TbStatement}
    (hok : env.AllOk) (hmeet : Proc.StepsMeet KeepsSession (TxnOp.run pg env) ops stmts w)
    (h : InTxn w₀ stmts w) (hrun : runOps pg env ops stmts w = .ok stmts' w') :
    InTxn w₀ stmts' w' :=
  Proc.fold_ok (fun _ _ _ _ _ hkeeps hI hstep => (hI.step hok hkeeps hstep).1) hmeet h hrun

/-- What a transaction has executed is committed with it. -/
theorem InTxn.committed {w₀ : World} {stmts : List TbStatement} {u : Unit}
    (h : InTxn w₀ stmts w) (hrun : tbfdwXactCallback env .preCommit w = .ok u w') (n : Nat)
    (hle : w₀.remote.executed ≤ n) (hlt : n < w.remote.executed) : n ∈ w'.remote.committed := by
  have hgot : w.xactGotConnection = true := by
    refine h.xactGotConnection (h.stmts fun heq => ?_)
    omega
  obtain ⟨hclosed, -⟩ := tbfdwXactCallback_closed
    (show XactEvent.preCommit.completion = some .commit from rfl)
    (fun hno => by cases hno) h.consistent hgot hrun
  obtain ⟨k, hk, hn⟩ := h.work n hle hlt
  exact hclosed.work rfl k hk.1.1 hk n hn

/-- **All or nothing under invalidation**: in a transaction that asks for no
statement on a connection which was invalidated inside its remote transaction,
every insert is committed with the local transaction, and no session in a remote
transaction is disconnected before the end. Such a request disconnects the session, and what
it has inserted is gone without an error. -/
theorem allOrNothing {ops : List TxnOp} {w₀ : World} (hok : env.AllOk) (hw₀ : Reachable pg w₀)
    (hmeet : Proc.StepsMeet KeepsSession (TxnOp.run pg env) ops [] w₀) :
    InsertsCommitted pg env ops w₀ ∧ SessionsKept pg env ops w₀ := by
  have hstart := InTxn.start hw₀.consistent
  constructor
  · intro stmts w₁ u w₂ hrun hcommit n hle hlt
    exact (hstart.of_runOps hok hmeet hrun).committed hcommit n hle hlt
  · intro ops₁ ops₂ stmts₁ w₁ hops hrun₁ k hk
    rw [hops] at hmeet
    obtain ⟨hmeet₁, hmeet₂⟩ := hmeet.append hrun₁
    have h₁ := hstart.of_runOps hok hmeet₁ hrun₁
    refine Proc.fold_next
      (I := fun stmts w => InTxn w₀ stmts w ∧ Stays w₁ w)
      (J := fun w => w.remote.isOpen (w₁.conn k).hdbc = true) ?_ ?_ ?_ hmeet₂ ⟨h₁, Stays.refl w₁⟩
    · intro op stmts w stmts' w' hkeeps hI hstep
      obtain ⟨hI', hstays⟩ := hI.1.step hok hkeeps hstep
      exact ⟨hI', hI.2.trans hstays⟩
    · intro op stmts w e w' hkeeps hI hraise
      obtain ⟨hk', hhdbc, -⟩ := hI.2 k hk
      rw [← hhdbc]
      exact TxnOp.raise_isOpen hok hkeeps hI.1.consistent hraise hk'
    · intro stmts w hI
      obtain ⟨hk', hhdbc, -⟩ := hI.2 k hk
      rw [← hhdbc]
      exact hI.1.consistent.isOpen k hk'.1

end

/-- An invalidation after the statement was handed out does no harm. -/
theorem allOrNothing_invalidated_later :
    InsertsCommitted Postgres.small .succeeding
        [.getStatement .sample false, .insert 0, .invalidate .foreignServerOid 0, .insert 0]
        .start ∧
      SessionsKept Postgres.small .succeeding
        [.getStatement .sample false, .insert 0, .invalidate .foreignServerOid 0, .insert 0]
        .start :=
  allOrNothing Environment.succeeding_allOk (Reachable.start rfl rfl)
    ⟨fun _ => rfl, fun _ _ _ => ⟨trivial, fun _ _ _ => ⟨trivial, fun _ _ _ =>
      ⟨trivial, fun _ _ _ => trivial⟩⟩⟩⟩

/-- Two inserts in one local transaction, with an invalidation before the
statement of the second one. -/
def invalidatedTxn : List TxnOp :=
  [.getStatement .sample false, .insert 0, .invalidate .foreignServerOid 0,
    .getStatement .sample false, .insert 1]

/-- The first insert of the transaction is lost, and the commit succeeds. -/
theorem invalidatedTxn_not_committed :
    ¬InsertsCommitted Postgres.small .succeeding invalidatedTxn .start := by
  intro h
  obtain ⟨stmts, hrun⟩ := Outcome.eq_ok_of_isOk
    (o := runOps Postgres.small .succeeding invalidatedTxn [] .start) (by decide +kernel)
  obtain ⟨u, hcommit⟩ := Outcome.eq_ok_of_isOk
    (o := tbfdwXactCallback .succeeding .preCommit
      (runOps Postgres.small .succeeding invalidatedTxn [] .start).next) (by decide +kernel)
  have hlost := h stmts _ u _ hrun hcommit 0 (by decide +kernel) (by decide +kernel)
  revert hlost
  decide +kernel

end TiberoFdw
