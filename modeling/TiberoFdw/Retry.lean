import TiberoFdw.Invalidation

/-!
# The second attempt of `get_tb_statement`

A driver failure inside the first attempt disconnects the session, the error is
swallowed, and the second attempt opens a new session and a new remote
transaction. The work of the old one is gone, and the local transaction does not
notice. Here are the driver calls of both attempts, the positions where they can
fail, and **when a commit has everything**: each time an attempt fails after an
insert, the retry fails as well.
-/

namespace TiberoFdw

section

variable {pg : Postgres} {env : Environment} {w w' : World} {key : ConnCacheKey}

/-! ## Where the attempts fail -/

/-- The number of driver calls of the first attempt on a connection in a remote
transaction: the allocation of the statement, and the query for the snapshot. -/
def attemptCalls (w : World) (key : ConnCacheKey) (useFbQuery : Bool) : Nat :=
  if useFbQuery && needRemoteSnapshot w key then 5 else 1

/-- The `i`-th driver call of an attempt that starts with the `n`-th one fails.
The fetch of the snapshot may also find no row. -/
def AttemptFails (env : Environment) (n i : Nat) : Prop :=
  sqlSucceeded (env.rc (n + i)) = false ∧ ¬(i = 3 ∧ env.rc (n + i) = SQL_NO_DATA)

instance (env : Environment) (n i : Nat) : Decidable (AttemptFails env n i) :=
  inferInstanceAs (Decidable (_ ∧ _))

/-- One of the seven driver calls of the second attempt fails, when the `i`-th
call of the first attempt has failed. Three calls that disconnect are between them. -/
def RetryFails (env : Environment) (n i : Nat) : Prop :=
  ∃ j < 7, sqlSucceeded (env.rc (n + i + 4 + j)) = false

instance (env : Environment) (n i : Nat) : Decidable (RetryFails env n i) :=
  inferInstanceAs (Decidable (∃ j < 7, _))

/-- The attempt was left at its `i`-th call, and its session was disconnected. -/
structure LeftAt (env : Environment) (n i : Nat) (w' : World) : Prop where
  fails : AttemptFails env n i
  before : ∀ j < i, ¬AttemptFails env n j
  trace : w'.trace.length = n + i + 4

theorem checkReturn_raise {sqlerrcode : SqlState} {rc : SqlReturn} {e : PgError}
    (hconn : (w.conn key).connected = true)
    (h : checkReturn env key sqlerrcode rc w = .raise e w') :
    sqlSucceeded rc = false ∧ w'.trace.length = w.trace.length + 3 := by
  rw [checkReturn] at h
  split_ifs at h with hrc
  · cases h
  · rw [tbFdwReportError, dropConnection] at h
    rcases Proc.bind_eq_raise.mp h with hraise | ⟨u, w₁, hdrop, hraise⟩
    · rw [Proc.read_bind_run, hconn] at hraise
      cases hraise
    · rw [Proc.read_bind_run, hconn] at hdrop
      cases hdrop
      cases hraise
      exact ⟨by simpa using hrc, by simp⟩

theorem tbCall_raise {call : SqlCall} {e : PgError} (hconn : (w.conn key).connected = true)
    (h : tbCall env key call w = .raise e w') :
    sqlSucceeded (w.nextRc env) = false ∧ w'.trace.length = w.trace.length + 4 := by
  rw [tbCall, Proc.bind_of_ok (issue_run call)] at h
  obtain ⟨hrc, hlen⟩ := checkReturn_raise (w := w.called env call) hconn h
  exact ⟨hrc, by rw [hlen, World.called_length]⟩

theorem allocStatement_raise {tbStmt : TbStatement} {e : PgError}
    (hconn : (w.conn tbStmt.conn).connected = true)
    (h : allocStatement env tbStmt w = .raise e w') :
    sqlSucceeded (w.nextRc env) = false ∧ w'.trace.length = w.trace.length + 4 := by
  rw [allocStatement, Proc.read_bind_run, tbSqlAllocHandle] at h
  rcases Proc.bind_eq_raise.mp h with hraise | ⟨_, _, _, hraise⟩
  · rcases Proc.bind_eq_raise.mp hraise with hissue | ⟨⟨rc, handle⟩, w₁, hissue, hraise⟩
    · cases hissue
    · rw [sqlAllocHandle, Proc.read_bind_run] at hissue
      cases hissue
      dsimp only at hraise
      rw [Proc.pure_bind_run] at hraise
      rcases Proc.bind_eq_raise.mp hraise with hraise | ⟨_, _, hcheck, hraise⟩
      · obtain ⟨hrc, hlen⟩ := checkReturn_raise (w := w.issued env _ _) hconn hraise
        exact ⟨hrc, by rw [hlen, World.issued_length]⟩
      · cases hraise
  · cases hraise

variable (env) in
/-- The fetch of the snapshot, with both exits. -/
theorem tbSqlFetch_rc (tbStmt : TbStatement)
    (hconn : (w.conn tbStmt.conn).connected = true) :
    (∀ r w', tbSqlFetch env tbStmt w = .ok r w' →
      sqlSucceeded (w.nextRc env) = true ∨ w.nextRc env = SQL_NO_DATA) ∧
    ∀ e w', tbSqlFetch env tbStmt w = .raise e w' → sqlSucceeded (w.nextRc env) = false ∧
      w.nextRc env ≠ SQL_NO_DATA ∧ w'.trace.length = w.trace.length + 4 := by
  rw [tbSqlFetch]
  rcases hrc : sqlSucceeded (w.nextRc env) with _ | _
  · have hfetch : sqlFetch env tbStmt.hstmt w = .ok (w.nextRc env, [])
        (w.issued env (.fetch tbStmt.hstmt) (w.nextRc env)) := by
      simp only [sqlFetch, hrc, Bool.not_false, if_true]
    rw [Proc.bind_of_ok hfetch]
    by_cases hdata : w.nextRc env = SQL_NO_DATA
    · refine ⟨fun _ _ _ => .inr hdata, fun e w' h => ?_⟩
      dsimp only at h
      rw [if_pos hdata] at h
      cases h
    · refine ⟨fun r w' h => ?_, fun e w' h => ?_⟩
      · dsimp only at h
        rw [if_neg hdata] at h
        obtain ⟨_, w₁, hcheck, -⟩ := Proc.bind_eq_ok.mp h
        rw [(checkReturn_eq_ok.mp hcheck).1] at hrc
        cases hrc
      · dsimp only at h
        rw [if_neg hdata] at h
        rcases Proc.bind_eq_raise.mp h with hraise | ⟨_, _, _, hraise⟩
        · have hlen := (checkReturn_raise (w := w.issued env _ _) hconn hraise).2
          exact ⟨rfl, hdata, by rw [hlen, World.issued_length]⟩
        · cases hraise
  · refine ⟨fun _ _ _ => .inl rfl, fun e w' h => ?_⟩
    -- a fetch that succeeds returns its rows or finds none
    rcases Proc.bind_eq_raise.mp h with hraise | ⟨⟨rc, batch⟩, w₁, hfetch, hraise⟩
    · rw [sqlFetch] at hraise
      split_ifs at hraise
    · dsimp only at hraise
      split_ifs at hraise with hdata
      · cases hraise
      · have hrc' : sqlSucceeded rc = true := by
          rw [sqlFetch] at hfetch
          split_ifs at hfetch <;> cases hfetch
          · exact hrc
          · exact (hdata rfl).elim
          · exact hrc
        rcases Proc.bind_eq_raise.mp hraise with hraise | ⟨_, _, _, hraise⟩
        · rw [checkReturn, if_pos hrc'] at hraise
          cases hraise
        · cases hraise

/-- The attempt has made its first `i` calls, and none of them has failed. -/
structure AttemptAt (env : Environment) (key : ConnCacheKey) (n i : Nat) (w : World) : Prop where
  connected : (w.conn key).connected = true
  trace : w.trace.length = n + i
  before : ∀ j < i, ¬AttemptFails env n j

theorem AttemptAt.next {n i : Nat} (h : AttemptAt env key n i w)
    (hconn : (w'.conn key).connected = true) (htrace : w'.trace.length = w.trace.length + 1)
    (hfails : ¬AttemptFails env n i) : AttemptAt env key n (i + 1) w' := by
  refine ⟨hconn, by rw [htrace, h.trace, Nat.add_assoc], fun j hj => ?_⟩
  rcases Nat.lt_succ_iff_lt_or_eq.mp hj with hlt | rfl
  · exact h.before j hlt
  · exact hfails

theorem not_attemptFails {n i : Nat} (hrc : sqlSucceeded (env.rc (n + i)) = true) :
    ¬AttemptFails env n i := by
  rintro ⟨hfalse, -⟩
  rw [hrc] at hfalse
  cases hfalse

/-- One more call of the attempt, among at most `m`. -/
theorem tbCall_attempt {n i m : Nat} (hi : i < m) (hfetch : i ≠ 3) (call : SqlCall) :
    Proc.Triple (AttemptAt env key n i) (tbCall env key call)
      (fun _ => AttemptAt env key n (i + 1)) fun _ w' => ∃ k < m, LeftAt env n k w' := by
  intro w h
  have hnext : w.nextRc env = env.rc (n + i) := by rw [World.nextRc, h.trace]
  rcases hrun : tbCall env key call w with ⟨u, w'⟩ | ⟨e, w'⟩
  · obtain ⟨hrc, rfl⟩ := tbCall_eq_ok.mp hrun
    exact h.next h.connected (by simp) (not_attemptFails (hnext ▸ hrc))
  · obtain ⟨hrc, hlen⟩ := tbCall_raise h.connected hrun
    exact ⟨i, hi, ⟨hnext ▸ hrc, fun h => hfetch h.1⟩, h.before, by rw [hlen, h.trace]⟩

/-- The query for the snapshot, after the allocation of the statement. -/
theorem fetchTsn_attempt (tbStmt : TbStatement) (n : Nat) :
    Proc.Triple (AttemptAt env tbStmt.conn n 1) (fetchTsn env tbStmt)
      (fun _ => AttemptAt env tbStmt.conn n 5) fun _ w' => ∃ k < 5, LeftAt env n k w' := by
  refine Proc.Triple.bind (tbCall_attempt (by omega) (by omega) _) fun _ => ?_
  refine Proc.Triple.bind (tbCall_attempt (by omega) (by omega) _) fun _ => ?_
  refine Proc.Triple.bind (Q := fun _ => AttemptAt env tbStmt.conn n 4) ?_ fun r => ?_
  · intro w h
    have hnext : w.nextRc env = env.rc (n + 3) := by rw [World.nextRc, h.trace]
    obtain ⟨hok, hraise⟩ := tbSqlFetch_rc env tbStmt h.connected
    rcases hrun : tbSqlFetch env tbStmt w with ⟨r, w'⟩ | ⟨e, w'⟩
    · obtain ⟨rc, rfl, -⟩ := tbSqlFetch_ok hrun
      refine h.next h.connected (by simp) ?_
      rcases hok _ _ hrun with hrc | hdata
      · exact not_attemptFails (hnext ▸ hrc)
      · exact fun hfails => hfails.2 ⟨rfl, hnext ▸ hdata⟩
    · obtain ⟨hrc, hdata, hlen⟩ := hraise _ _ hrun
      exact ⟨3, by omega, ⟨hnext ▸ hrc, fun h => hdata (hnext ▸ h.2)⟩, h.before,
        by rw [hlen, h.trace]⟩
  refine Proc.Triple.bind (Q := fun _ => AttemptAt env tbStmt.conn n 4) ?_ fun _ => ?_
  · intro w h
    rcases hrun : storeTsn tbStmt.conn r.1 w with ⟨u, w'⟩ | ⟨e, w'⟩
    · obtain ⟨tsn, rfl⟩ := storeTsn_ok hrun
      exact ⟨by simpa using h.connected, h.trace, h.before⟩
    · exact (storeTsn_raisesOnly (E := fun _ => False) r.1 _ _ _ hrun).elim
  refine Proc.Triple.bind (tbCall_attempt (by omega) (by omega) _) fun _ => ?_
  exact Proc.Triple.modify fun w h => ⟨by simpa using h.connected, h.trace, h.before⟩

/-- The first attempt on a connection in a remote transaction. -/
theorem openStatement_attempt (tbStmt : TbStatement) (useFbQuery : Bool)
    (hconn : (w.conn tbStmt.conn).connected = true)
    (hbegun : (w.conn tbStmt.conn).beginRemoteXact = true) :
    (∀ stmt w', openStatement env tbStmt useFbQuery w = .ok stmt w' →
      ∀ i < attemptCalls w tbStmt.conn useFbQuery, ¬AttemptFails env w.trace.length i) ∧
    ∀ e w', openStatement env tbStmt useFbQuery w = .raise e w' →
      ∃ i < attemptCalls w tbStmt.conn useFbQuery, LeftAt env w.trace.length i w' := by
  rw [openStatement]
  rcases halloc : allocStatement env tbStmt w with ⟨stmt, w₁⟩ | ⟨e, w₁⟩
  case raise =>
    rw [Proc.bind_of_raise halloc]
    refine ⟨fun _ _ h => (by cases h), fun e w' h => ?_⟩
    cases h
    obtain ⟨hrc, hlen⟩ := allocStatement_raise hconn halloc
    refine ⟨0, ?_, ⟨hrc, fun h => by cases h.1⟩, fun j hj => by omega, hlen⟩
    rw [attemptCalls]
    split_ifs <;> omega
  rw [Proc.bind_of_ok halloc]
  obtain ⟨hstmt, hw₁, -⟩ := allocStatement_ok halloc
  have hrc₀ : sqlSucceeded (env.rc w.trace.length) = true := by
    rw [allocStatement, Proc.read_bind_run] at halloc
    obtain ⟨_, _, h, -⟩ := Proc.bind_eq_ok.mp halloc
    exact (tbSqlAllocHandle_pure_eq_ok.mp h).1
  have hat : AttemptAt env stmt.conn w.trace.length 1 w₁ := by
    refine ⟨by rw [hw₁, hstmt]; exact hconn, by simp [hw₁], fun j hj => ?_⟩
    obtain rfl : j = 0 := by omega
    exact not_attemptFails hrc₀
  have hbegun₁ : (w₁.conn stmt.conn).beginRemoteXact = true := by
    rw [hw₁, hstmt]
    exact hbegun
  -- the allocation changes nothing that the snapshot depends on
  have hneed : needRemoteSnapshot w₁ stmt.conn = needRemoteSnapshot w tbStmt.conn := by
    rw [hw₁, hstmt]
    rfl
  rw [Proc.read_bind_run, hbegun₁, Bool.not_true, Proc.when_false, Proc.pure_bind_run,
    Proc.read_bind_run, hneed, attemptCalls]
  rcases hsnapshot : (useFbQuery && needRemoteSnapshot w tbStmt.conn) with _ | _
  · -- the allocation was the only call
    refine ⟨fun stmt' w' h i hi => ?_, fun e w' h => by cases h⟩
    exact hat.before i (by simpa using hi)
  · rw [Proc.when_true, if_pos rfl]
    have htriple := fetchTsn_attempt stmt w.trace.length w₁ hat
    rcases hrun : fetchTsn env stmt w₁ with ⟨u, w₂⟩ | ⟨e, w₂⟩ <;> rw [hrun] at htriple
    · rw [Proc.bind_of_ok hrun]
      refine ⟨fun stmt' w' h => htriple.before, fun e w' h => by cases h⟩
    · rw [Proc.bind_of_raise hrun]
      refine ⟨fun _ _ h => (by cases h), fun e w' h => ?_⟩
      cases h
      exact htriple

/-- The seven driver calls of a second attempt that returns. -/
theorem retryTbStatement_succeeded {user : UserMapping} {tbStmt stmt : TbStatement}
    (hconn : (w.conn tbStmt.conn).connected = false)
    (h : retryTbStatement pg env user tbStmt w = .ok stmt w') :
    ∀ j < 7, sqlSucceeded (env.rc (w.trace.length + j)) = true := by
  rw [retryTbStatement] at h
  obtain ⟨_, w₁, hdisconnect, h⟩ := Proc.bind_eq_ok.mp h
  obtain ⟨_, w₂, hmake, h⟩ := Proc.bind_eq_ok.mp h
  obtain ⟨stmt₁, w₃, halloc, h⟩ := Proc.bind_eq_ok.mp h
  rw [Proc.read_bind_run] at h
  obtain ⟨_, w₄, hbegin, h⟩ := Proc.bind_eq_ok.mp h
  rcases disconnectTbServer_ok hdisconnect with ⟨-, rfl⟩ | ⟨htrue, -⟩
  · have hmade := makeTbConnection_ok hmake
    obtain ⟨-, hw₃, -⟩ := allocStatement_ok halloc
    rw [allocStatement, Proc.read_bind_run] at halloc
    obtain ⟨_, _, halloc, -⟩ := Proc.bind_eq_ok.mp halloc
    have hrc₄ := (tbSqlAllocHandle_pure_eq_ok.mp halloc).1
    rw [beginRemoteXact] at hbegin
    obtain ⟨_, w₅, h₅, hbegin⟩ := Proc.bind_eq_ok.mp hbegin
    obtain ⟨_, w₆, h₆, hbegin⟩ := Proc.bind_eq_ok.mp hbegin
    rw [tbSqlSetConnectAttr, Proc.read_bind_run, tbCall_eq_ok] at h₅
    rw [tbSqlExecDirect, tbCall_eq_ok] at h₆
    obtain ⟨hrc₅, rfl⟩ := h₅
    obtain ⟨hrc₆, -⟩ := h₆
    rw [World.nextRc, hmade.trace] at hrc₄
    rw [World.nextRc, hw₃, World.called_length, hmade.trace] at hrc₅
    rw [World.nextRc, World.called_length, hw₃, World.called_length, hmade.trace] at hrc₆
    intro j hj
    -- four calls make the connection, and three more open the statement
    have hcases : j < 4 ∨ j = 4 ∨ j = 5 ∨ j = 6 := by omega
    rcases hcases with hlt | rfl | rfl | rfl
    · exact hmade.succeeded j hlt
    · exact hrc₄
    · exact hrc₅
    · exact hrc₆
  · rw [hconn] at htrue
    cases htrue

/-! ## One connection over a transaction -/

/-- A step on the connection of the user mapping. -/
def TxnOp.OnConnection (user : UserMapping) : TxnOp → Prop
  | .getStatement user' _ => user' = user
  | .invalidate _ _ => False
  | _ => True

/-- The condition under which a step loses no work, in a transaction that started
after `n₀` executions. When an attempt fails after an insert, its retry fails as
well; and an insert is executed on the session that
the connection has now, not on one that a retry has replaced. -/
def LosesNoWork (env : Environment) (user : UserMapping) (n₀ : Nat) (op : TxnOp)
    (stmts : List TbStatement) (w : World) : Prop :=
  match op with
  | .getStatement _ useFbQuery => n₀ < w.remote.executed →
    ∀ i < attemptCalls w user.umid useFbQuery, AttemptFails env w.trace.length i →
      (∀ j < i, ¬AttemptFails env w.trace.length j) → RetryFails env w.trace.length i
  | .insert i => ∀ stmt, stmts[i]? = some stmt →
    w.remote.session stmt.hstmt = (w.conn user.umid).hdbc
  | _ => True

instance (env : Environment) (user : UserMapping) (n₀ : Nat) (op : TxnOp)
    (stmts : List TbStatement) (w : World) : Decidable (LosesNoWork env user n₀ op stmts w) :=
  match op with
  | .getStatement _ useFbQuery => inferInstanceAs (Decidable (n₀ < w.remote.executed →
      ∀ i < attemptCalls w user.umid useFbQuery, AttemptFails env w.trace.length i →
        (∀ j < i, ¬AttemptFails env w.trace.length j) → RetryFails env w.trace.length i))
  | .insert i => inferInstanceAs (Decidable (∀ stmt ∈ stmts[i]?,
      w.remote.session stmt.hstmt = (w.conn user.umid).hdbc))
  | .startStatement _ | .invalidate _ _ => .isTrue trivial

/-- What holds inside a transaction on one connection: everything it has executed
is work of the open transaction of the connection. -/
structure OneConnection (user : UserMapping) (n₀ : Nat) (stmts : List TbStatement) (w : World) :
    Prop where
  consistent : Consistent w
  executed : w.remote.executed ≥ n₀
  work : ∀ n, n₀ ≤ n → n < w.remote.executed → n ∈ w.remote.work (w.conn user.umid).hdbc
  inXact : stmts ≠ [] → w.InXact user.umid ∧ (w.conn user.umid).invalidated = false ∧
    w.xactGotConnection = true
  stmts : w.remote.executed ≠ n₀ → stmts ≠ []

variable {user : UserMapping} {n₀ : Nat} {stmts stmts' : List TbStatement}

/-- The entered world of a live entry, for the first attempt. -/
theorem openStatement_of_try {tbStmt : TbStatement} {useFbQuery : Bool}
    (hconn : tbStmt.conn = key) (hreuses : w.reuses key = true) :
    tryTbStatement pg env user tbStmt useFbQuery (w.entered env key) =
      openStatement env tbStmt useFbQuery (w.entered env key) := by
  subst hconn
  have hup : ((w.entered env tbStmt.conn).conn tbStmt.conn).upToDate = true := by
    rw [World.entered_reuses, hreuses]
  rw [tryTbStatement, Proc.bind_of_ok (ensureConnection_upToDate hup)]

/-- The first attempt on a connection in a remote transaction, from the world
before `get_tb_statement`. -/
theorem tryTbStatement_attempt {tbStmt : TbStatement} {useFbQuery : Bool}
    (hconn : tbStmt.conn = key) (hin : w.InXact key) (hvalid : (w.conn key).invalidated = false) :
    (∀ stmt w', tryTbStatement pg env user tbStmt useFbQuery (w.entered env key) = .ok stmt w' →
      ∀ i < attemptCalls w key useFbQuery, ¬AttemptFails env w.trace.length i) ∧
    ∀ e w', tryTbStatement pg env user tbStmt useFbQuery (w.entered env key) = .raise e w' →
      ∃ i < attemptCalls w key useFbQuery, LeftAt env w.trace.length i w' := by
  rw [openStatement_of_try hconn (World.reuses_iff.mpr ⟨hin.1, hvalid⟩)]
  subst hconn
  obtain ⟨hlive, hsame⟩ := World.entered_of_live env tbStmt.conn hin.1
  have hcalls : attemptCalls (w.entered env tbStmt.conn) tbStmt.conn useFbQuery =
      attemptCalls w tbStmt.conn useFbQuery := by
    have htime : (w.entered env tbStmt.conn).statementStart = w.statementStart := by
      rw [World.entered]
      split_ifs <;> rfl
    rw [attemptCalls, attemptCalls, needRemoteSnapshot, needRemoteSnapshot, hsame, htime,
      World.entered_isolation]
  have hattempt := @openStatement_attempt env (w.entered env tbStmt.conn) tbStmt useFbQuery hlive.2
    (by rw [hsame]; exact hin.2)
  rw [hcalls, World.entered_trace] at hattempt
  exact hattempt

/-- `get_tb_statement` returns from its first attempt, and then no call of it has
failed, or from the second one, and then nothing was executed before. -/
theorem OneConnection.getTbStatement {useFbQuery : Bool} {tbStmt stmt : TbStatement}
    (h : OneConnection user n₀ stmts w)
    (hkeeps : LosesNoWork env user n₀ (.getStatement user useFbQuery) stmts w)
    (hrun : getTbStatement pg env user tbStmt useFbQuery w = .ok stmt w') :
    OneConnection user n₀ (stmts ++ [stmt]) w' ∧ (n₀ < w.remote.executed →
      ∀ i < attemptCalls w user.umid useFbQuery, ¬AttemptFails env w.trace.length i) := by
  -- with work at stake, the transaction is open on a valid connection
  have hin : n₀ < w.remote.executed →
      w.InXact user.umid ∧ (w.conn user.umid).invalidated = false := by
    intro hlt
    obtain ⟨hin, hvalid, -⟩ := h.inXact (h.stmts (by omega))
    exact ⟨hin, hvalid⟩
  rcases getTbStatement_ok hrun with htry | ⟨err, w₁, htry, -, hretry⟩
  · have hgot := Got.of_try h.consistent rfl htry
    refine ⟨⟨hgot.consistent, hgot.executed ▸ h.executed, ?_, ?_, fun _ => by simp⟩, ?_⟩
    · intro n hle hlt
      rw [hgot.executed] at hlt
      obtain ⟨hin, hvalid⟩ := hin (Nat.lt_of_le_of_lt hle hlt)
      obtain ⟨hhdbc, hwork⟩ := hgot.reused (World.reuses_iff.mpr ⟨hin.1, hvalid⟩)
      rw [hhdbc, hwork]
      exact h.work n hle hlt
    · exact fun _ => ⟨⟨hgot.live, hgot.begun⟩, hgot.invalidated, hgot.xactGotConnection⟩
    · intro hlt
      obtain ⟨hin, hvalid⟩ := hin hlt
      exact (tryTbStatement_attempt rfl hin hvalid).1 _ _ htry
  · -- the calls of the second attempt have succeeded, so there was nothing to lose
    have hkey : user.umid ∈ (w.entered env user.umid).keys :=
      World.mem_entered_keys.mpr (.inl rfl)
    have hlost := tryTbStatement_raise (h.consistent.entered env user.umid) hkey htry
    have hsucceeded := retryTbStatement_succeeded hlost.connected hretry
    -- a first attempt that fails would lose the work, which was excluded
    have hnone : ¬n₀ < w.remote.executed := by
      intro hlt
      obtain ⟨hin, hvalid⟩ := hin hlt
      obtain ⟨i, hi, hleft⟩ := (tryTbStatement_attempt rfl hin hvalid).2 _ _ htry
      obtain ⟨j, hj, hfails⟩ := hkeeps hlt i hi hleft.fails hleft.before
      have := hsucceeded j hj
      rw [hleft.trace, hfails] at this
      cases this
    have hle := h.executed
    obtain ⟨w₂, hreplaced, hopened⟩ := retryTbStatement_ok hretry
    have hkey₁ : user.umid ∈ w₁.keys := hlost.keys ▸ hkey
    have hlive₂ : w₂.Live user.umid := ⟨hreplaced.keys ▸ hkey₁, hreplaced.connected⟩
    have hexecuted : w'.remote.executed = w.remote.executed := by
      rw [hopened.executed, hreplaced.executed, hlost.executed, World.entered_remote]
    refine ⟨⟨(hlost.consistent.of_replaced hkey₁ hreplaced).of_opened hlive₂ hopened,
      hexecuted ▸ hle, fun n hle hlt => by omega, fun _ => ⟨⟨⟨?_, ?_⟩, ?_⟩, ?_, ?_⟩,
      fun _ => by simp⟩, fun hlt => (hnone hlt).elim⟩
    · rw [hopened.keys]
      exact hlive₂.1
    · rw [hopened.connected]
      exact hlive₂.2
    · exact hopened.beginRemoteXact
    · rw [hopened.invalidated]
      exact hreplaced.invalidated
    · rw [hopened.xactGotConnection, hreplaced.xactGotConnection, hlost.xactGotConnection]
      simp

/-- An insert on the session of the connection. -/
theorem OneConnection.insert {stmt stmt' : TbStatement} (h : OneConnection user n₀ stmts w)
    (hmem : stmt ∈ stmts) (hsession : w.remote.session stmt.hstmt = (w.conn user.umid).hdbc)
    (hrun : tbSqlExecute env stmt w = .ok stmt' w') : OneConnection user n₀ stmts w' := by
  obtain ⟨hin, hvalid, hgot⟩ := h.inXact (List.ne_nil_of_mem hmem)
  obtain ⟨hconn, hkeys, hgot', -, htrace, hremote⟩ :=
    execute_inXact h.consistent hin hsession hrun
  have hexecuted : w'.remote.executed = w.remote.executed + 1 := by rw [hremote]
  refine ⟨?_, ?_, ?_, fun _ => ⟨⟨⟨?_, ?_⟩, ?_⟩, ?_, ?_⟩, fun _ => List.ne_nil_of_mem hmem⟩
  · refine h.consistent.of_same hkeys (by omega) ?_ (by rw [hremote]; rfl)
      (by simp [hremote, Remote.receive])
    intro k hk
    rw [hconn] at hk ⊢
    exact ⟨hk, rfl, id⟩
  · have := h.executed
    omega
  · intro n hle hlt
    rw [hconn, hremote]
    dsimp only
    rw [Remote.set_same]
    by_cases hn : n = w.remote.executed
    · exact List.mem_append.mpr (.inr (List.mem_singleton.mpr hn))
    · exact List.mem_append.mpr (.inl (h.work n hle (by omega)))
  · rw [hkeys]
    exact hin.1.1
  · rw [hconn]
    exact hin.1.2
  · rw [hconn]
    exact hin.2
  · rw [hconn]
    exact hvalid
  · rw [hgot']
    exact hgot

/-- **One step on the connection** keeps what was executed in its open transaction. An attempt that
fails is the case that matters: nothing was inserted before it, or its error goes on. -/
theorem OneConnection.step {op : TxnOp} (hop : op.OnConnection user)
    (hkeeps : LosesNoWork env user n₀ op stmts w) (h : OneConnection user n₀ stmts w)
    (hrun : op.run pg env stmts w = .ok stmts' w') : OneConnection user n₀ stmts' w' := by
  cases op with
  | startStatement timestamp =>
    cases hrun
    exact ⟨h.consistent.congr rfl rfl rfl, h.executed, h.work, h.inXact, h.stmts⟩
  | getStatement user' useFbQuery =>
    obtain rfl : user' = user := hop
    obtain ⟨stmt, w₁, hget, hrun⟩ := Proc.bind_eq_ok.mp hrun
    cases hrun
    exact (h.getTbStatement hkeeps hget).1
  | insert i =>
    rw [TxnOp.run] at hrun
    rcases hi : stmts[i]? with _ | stmt
    · rw [hi] at hrun
      cases hrun
      exact h
    · rw [hi] at hrun
      obtain ⟨stmt', w₁, hexecute, hrun⟩ := Proc.bind_eq_ok.mp hrun
      cases hrun
      exact h.insert (List.mem_of_getElem? hi) (hkeeps stmt hi) hexecute
  | invalidate cacheid hashvalue => exact hop.elim

theorem OneConnection.of_runOps {ops : List TxnOp} (hops : ∀ op ∈ ops, op.OnConnection user)
    (hmeet : Proc.StepsMeet (LosesNoWork env user n₀) (TxnOp.run pg env) ops stmts w)
    (h : OneConnection user n₀ stmts w) (hrun : runOps pg env ops stmts w = .ok stmts' w') :
    OneConnection user n₀ stmts' w' := by
  induction ops generalizing stmts w with
  | nil =>
    cases hrun
    exact h
  | cons op rest ih =>
    obtain ⟨stmts₁, w₁, hstep, hrun⟩ := Proc.bind_eq_ok.mp hrun
    refine ih (fun op hop => hops op (List.mem_cons_of_mem _ hop)) (hmeet.2 _ _ hstep) ?_ hrun
    exact h.step (hops op (List.mem_cons_self ..)) hmeet.1 hstep

/-! ## The guarantee -/

/-- When a driver call of `get_tb_statement` fails after an insert of the
transaction, then `get_tb_statement` raises an error. -/
def FailureRaises (pg : Postgres) (env : Environment) (user : UserMapping) (ops : List TxnOp)
    (w₀ : World) : Prop :=
  ∀ ops₁ ops₂ useFbQuery stmts₁ w₁, ops = ops₁ ++ .getStatement user useFbQuery :: ops₂ →
    runOps pg env ops₁ [] w₀ = .ok stmts₁ w₁ → w₀.remote.executed < w₁.remote.executed →
    ∀ i < attemptCalls w₁ user.umid useFbQuery, AttemptFails env w₁.trace.length i →
      (getTbStatement pg env user TbStatement.zeroed useFbQuery w₁).isOk = false

/-- **The second attempt hides no lost work** in a transaction on one connection,
as long as each attempt that fails after an insert fails for good. Otherwise the new
connection starts a remote transaction without the inserts of the old one, and the commit
reports success. -/
theorem retry_hides_nothing {ops : List TxnOp} {w₀ : World} (hw₀ : Reachable pg w₀)
    (hops : ∀ op ∈ ops, op.OnConnection user)
    (hmeet : Proc.StepsMeet (LosesNoWork env user w₀.remote.executed) (TxnOp.run pg env) ops []
      w₀) :
    InsertsCommitted pg env ops w₀ ∧ FailureRaises pg env user ops w₀ := by
  have hstart : OneConnection user w₀.remote.executed [] w₀ :=
    ⟨hw₀.consistent, Nat.le_refl _, fun n hle hlt => (Nat.not_lt_of_le hle hlt).elim,
      fun h => (h rfl).elim, fun h => (h rfl).elim⟩
  constructor
  · intro stmts w₁ u w₂ hrun hcommit n hle hlt
    have h := hstart.of_runOps hops hmeet hrun
    obtain ⟨hin, -, hgot⟩ := h.inXact (h.stmts (by omega))
    obtain ⟨hclosed, -⟩ := tbfdwXactCallback_closed
      (show XactEvent.preCommit.completion = some .commit from rfl)
      (fun hno => by cases hno) h.consistent hgot hcommit
    exact hclosed.work rfl user.umid hin.1.1 hin n (h.work n hle hlt)
  · intro ops₁ ops₂ useFbQuery stmts₁ w₁ hsplit hrun hlt i hi hfails
    rw [hsplit] at hops hmeet
    obtain ⟨hmeet₁, hmeet₂⟩ := hmeet.append hrun
    have h := hstart.of_runOps (fun op hop => hops op (List.mem_append.mpr (.inl hop))) hmeet₁ hrun
    rcases hget : getTbStatement pg env user TbStatement.zeroed useFbQuery w₁ with
      ⟨stmt, w₂⟩ | ⟨e, w₂⟩
    · exact ((h.getTbStatement hmeet₂.1 hget).2 hlt i hi hfails).elim
    · rfl

end

/-- The driver fails in the first attempt for the second statement, and in its retry. -/
def Environment.failsTwice : Environment :=
  { Environment.succeeding with rc := fun n => if n = 8 ∨ n = 12 then -1 else SQL_SUCCESS }

/-- The insert is lost with its session, and the error of the retry says so. -/
theorem failedRetry_hides_nothing :
    InsertsCommitted Postgres.small .failsTwice
        [.getStatement .sample false, .insert 0, .getStatement .sample false] .start ∧
      FailureRaises Postgres.small .failsTwice .sample
        [.getStatement .sample false, .insert 0, .getStatement .sample false] .start := by
  refine retry_hides_nothing (Reachable.start rfl rfl) ?_ (by decide +kernel)
  simp [TxnOp.OnConnection]

/-- Two inserts in one local transaction; each of them has a statement of its own. -/
def twoInserts : List TxnOp :=
  [.getStatement .sample false, .insert 0, .getStatement .sample false, .insert 1]

/-- The driver fails once, in the first attempt for the second statement. -/
def Environment.failsOnce : Environment :=
  { Environment.succeeding with rc := fun n => if n = 8 then -1 else SQL_SUCCESS }

/-- The retry hides the failure, the first insert is lost, and the commit succeeds. -/
theorem twoInserts_not_committed :
    ¬InsertsCommitted Postgres.small .failsOnce twoInserts .start := by
  intro h
  obtain ⟨stmts, hrun⟩ := Outcome.eq_ok_of_isOk
    (o := runOps Postgres.small .failsOnce twoInserts [] .start) (by decide +kernel)
  obtain ⟨u, hcommit⟩ := Outcome.eq_ok_of_isOk
    (o := tbfdwXactCallback .failsOnce .preCommit
      (runOps Postgres.small .failsOnce twoInserts [] .start).next) (by decide +kernel)
  have hlost := h stmts _ u _ hrun hcommit 0 (by decide +kernel) (by decide +kernel)
  revert hlost
  decide +kernel

end TiberoFdw
