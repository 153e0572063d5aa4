import TiberoFdw.Settled

/-!
# The snapshot of a statement

A scan with a flashback query reads as of the TSN in its cache entry, which
`get_tb_statement` fetches once for each local statement. The trace shows when a TSN
was fetched, and on which session (`TsnFetchedSince`). **Over any run** of a backend,
an entry that bears the start of the running statement has a TSN that was fetched
since then (`SnapshotsKept`).
-/

namespace TiberoFdw

/-- The query for the snapshot. -/
def snapshotSql : Text := "SELECT current_tsn FROM v$database".toList

/-- The TSN of the entry was fetched on its session, by a query that was issued as
the `since`-th call or later. -/
def TsnFetchedSince (env : Environment) (since : Nat) (conn : ConnCacheEntry)
    (calls : List Issued) : Prop :=
  ∃ hstmt m n rc rc' rc'' tsn rest rows,
    calls[m]? = some ⟨.allocHandle .stmt conn.hdbc hstmt, rc⟩ ∧ sqlSucceeded rc = true ∧
    m < n ∧ since ≤ n ∧ calls[n]? = some ⟨.execDirect hstmt snapshotSql, rc'⟩ ∧
    sqlSucceeded rc' = true ∧ env.result n = (some tsn :: rest) :: rows ∧
    calls[n + 2]? = some ⟨.fetch hstmt, rc''⟩ ∧ sqlSucceeded rc'' = true ∧
    conn.tsn = tsn.take 31

/-- The query for the snapshot finds a TSN when it succeeds: `v$database` has one row. -/
def TsnAnswered (env : Environment) (calls : List Issued) : Prop :=
  ∀ n hstmt rc, calls[n]? = some ⟨.execDirect hstmt snapshotSql, rc⟩ → sqlSucceeded rc = true →
    (∃ tsn rest rows, env.result n = (some tsn :: rest) :: rows) ∧
      calls[n + 2]? ≠ some ⟨.fetch hstmt, SQL_NO_DATA⟩

section

variable {pg : Postgres} {env : Environment} {w w' : World} {key : ConnCacheKey}

theorem TsnAnswered.of_prefix {calls calls' : List Issued} (h : TsnAnswered env calls')
    (hpre : calls <+: calls') : TsnAnswered env calls := by
  intro n hstmt rc hexec hrc
  obtain ⟨hrow, hdata⟩ := h n hstmt rc (getElem?_of_isPre hpre hexec) hrc
  exact ⟨hrow, fun hfetch => hdata (getElem?_of_isPre hpre hfetch)⟩

theorem TsnFetchedSince.mono {since since' : Nat} {conn conn' : ConnCacheEntry}
    {calls calls' : List Issued} (h : TsnFetchedSince env since conn calls) (hle : since' ≤ since)
    (hhdbc : conn'.hdbc = conn.hdbc) (htsn : conn'.tsn = conn.tsn) (hpre : calls <+: calls') :
    TsnFetchedSince env since' conn' calls' := by
  obtain ⟨hstmt, m, n, rc, rc', rc'', tsn, rest, rows, halloc, hrc, hlt, hn, hexec, hrc', hrow,
    hfetch, hrc'', hkept⟩ := h
  refine ⟨hstmt, m, n, rc, rc', rc'', tsn, rest, rows, ?_, hrc, hlt, Nat.le_trans hle hn,
    getElem?_of_isPre hpre hexec, hrc', hrow, getElem?_of_isPre hpre hfetch, hrc'', ?_⟩
  · rw [hhdbc]
    exact getElem?_of_isPre hpre halloc
  · rw [htsn]
    exact hkept

/-! ## The query for the snapshot -/

/-- A fetch that returns has delivered rows, or has found the end of the result. -/
theorem tbSqlFetch_row {tbStmt : TbStatement} {r : List Row × Bool}
    (h : tbSqlFetch env tbStmt w = .ok r w') :
    (sqlSucceeded (w.nextRc env) = true ∧ w' = w.called env (.fetch tbStmt.hstmt) ∧
        r.1 = (w.stmts tbStmt.hstmt).pending.take (w.stmts tbStmt.hstmt).rowArraySize) ∨
      w' = w.issued env (.fetch tbStmt.hstmt) SQL_NO_DATA := by
  rw [tbSqlFetch] at h
  obtain ⟨⟨rc, batch⟩, w₁, hfetch, h⟩ := Proc.bind_eq_ok.mp h
  have hrest : w' = w₁ ∧ r.1 = batch ∧ (rc = SQL_NO_DATA ∨ sqlSucceeded rc = true) := by
    dsimp only at h
    split_ifs at h with hdata
    · cases h
      exact ⟨rfl, rfl, .inl hdata⟩
    · obtain ⟨_, w₂, hcheck, h⟩ := Proc.bind_eq_ok.mp h
      cases h
      obtain ⟨hrc, rfl⟩ := checkReturn_eq_ok.mp hcheck
      exact ⟨rfl, rfl, .inr hrc⟩
  obtain ⟨rfl, hbatch, hrc⟩ := hrest
  rw [sqlFetch] at hfetch
  split_ifs at hfetch with hfails hempty <;> cases hfetch
  · rcases hrc with hdata | hrc
    · rw [hdata]
      exact .inr rfl
    · rw [hrc] at hfails
      cases hfails
  · exact .inr rfl
  · exact .inl ⟨by simpa using hfails, rfl, hbatch⟩

/-- The TSN was fetched, by four calls. -/
structure TsnFetched (env : Environment) (tbStmt : TbStatement) (w w' : World) : Prop where
  entry : w'.conn tbStmt.conn =
    { w.conn tbStmt.conn with tsn := (w'.conn tbStmt.conn).tsn, stmtTs := w.statementStart }
  trace : w.trace <+: w'.trace
  length : w'.trace.length = w.trace.length + 4
  succeeded : ∀ i < 4, sqlSucceeded (env.rc (w.trace.length + i)) = true
  query : w'.trace[w.trace.length]? =
    some ⟨.execDirect tbStmt.hstmt snapshotSql, env.rc w.trace.length⟩
  fetch : w'.trace[w.trace.length + 2]? =
    some ⟨.fetch tbStmt.hstmt, env.rc (w.trace.length + 2)⟩
  row : (w.stmts tbStmt.hstmt).rowArraySize = 1 →
    ∃ tsn rest rows, env.result w.trace.length = (some tsn :: rest) :: rows ∧
      (w'.conn tbStmt.conn).tsn = tsn.take 31

/-- The four calls, whatever the fetch returns. -/
theorem fetchTsn_calls {tbStmt : TbStatement} {u : Unit} (h : fetchTsn env tbStmt w = .ok u w') :
    ∃ w₂ w₃ w₄ r, w₂ = (w.called env (.execDirect tbStmt.hstmt snapshotSql)).called env
        (.bindCol tbStmt.hstmt 1) ∧
      tbSqlFetch env tbStmt w₂ = .ok r w₃ ∧ storeTsn tbStmt.conn r.1 w₃ = .ok () w₄ ∧
      w' = (w₄.called env (.freeStmt tbStmt.hstmt .close)).setConn tbStmt.conn
        (fun c => { c with stmtTs := w₄.statementStart }) ∧
      sqlSucceeded (w.nextRc env) = true ∧
      sqlSucceeded ((w.called env (.execDirect tbStmt.hstmt snapshotSql)).nextRc env) = true ∧
      sqlSucceeded (w₄.nextRc env) = true := by
  rw [fetchTsn] at h
  obtain ⟨_, w₁, h₁, h⟩ := Proc.bind_eq_ok.mp h
  obtain ⟨_, w₂, h₂, h⟩ := Proc.bind_eq_ok.mp h
  obtain ⟨⟨batch, atEnd⟩, w₃, h₃, h⟩ := Proc.bind_eq_ok.mp h
  obtain ⟨_, w₄, h₄, h⟩ := Proc.bind_eq_ok.mp h
  obtain ⟨_, w₅, h₅, h⟩ := Proc.bind_eq_ok.mp h
  rw [tbSqlExecDirect, tbCall_eq_ok] at h₁
  rw [tbSqlBindCol, tbCall_eq_ok] at h₂
  rw [tbSqlFreeStmt, tbCall_eq_ok] at h₅
  obtain ⟨hrc₁, rfl⟩ := h₁
  obtain ⟨hrc₂, rfl⟩ := h₂
  obtain ⟨hrc₅, rfl⟩ := h₅
  cases h
  exact ⟨_, w₃, w₄, _, rfl, h₃, h₄, rfl, hrc₁, hrc₂, hrc₅⟩

/-- What is stored comes from the first row. -/
theorem storeTsn_first {tsn : Text} {rest : Row} {rows : List Row} {u : Unit}
    (h : storeTsn key ((some tsn :: rest) :: rows) w = .ok u w') :
    w' = w.setConn key fun c => { c with tsn := tsn.take 31 } := by
  cases h
  rfl

/-- The first of them is the query. -/
theorem fetchTsn_query {tbStmt : TbStatement} {u : Unit} (h : fetchTsn env tbStmt w = .ok u w') :
    w'.trace[w.trace.length]? =
      some ⟨.execDirect tbStmt.hstmt snapshotSql, env.rc w.trace.length⟩ := by
  obtain ⟨w₂, w₃, w₄, r, hw₂, hfetch, hstore, hw', -⟩ := fetchTsn_calls h
  obtain ⟨tsn', hw₄⟩ := storeTsn_ok hstore
  have hpre : w₂.trace <+: w'.trace := by
    rw [hw', hw₄]
    refine List.IsPrefix.trans ?_ (List.prefix_append ..)
    rcases tbSqlFetch_row hfetch with ⟨-, rfl, -⟩ | rfl <;> exact List.prefix_append ..
  apply getElem?_of_isPre hpre
  rw [hw₂]
  simp [World.called, World.issued, World.nextRc]

theorem fetchTsn_fetched {tbStmt : TbStatement} {u : Unit}
    (h : fetchTsn env tbStmt w = .ok u w') (hanswered : TsnAnswered env w'.trace) :
    TsnFetched env tbStmt w w' := by
  obtain ⟨w₂, w₃, w₄, r, hw₂, hfetch, hstore, hw', hrc₁, hrc₂, hrc₄⟩ := fetchTsn_calls h
  obtain ⟨tsn', hw₄⟩ := storeTsn_ok hstore
  have htrace₂ : w₂.trace = w.trace ++
      [⟨.execDirect tbStmt.hstmt snapshotSql, env.rc w.trace.length⟩,
      ⟨.bindCol tbStmt.hstmt 1, env.rc (w.trace.length + 1)⟩] := by
    simp [hw₂, World.called, World.issued, World.nextRc]
  have htrace : w'.trace = w₃.trace ++
      [⟨.freeStmt tbStmt.hstmt .close, env.rc w₃.trace.length⟩] := by
    simp [hw', hw₄, World.called, World.issued, World.nextRc]
  have hpre₀ : w.trace <+: w₂.trace := htrace₂ ▸ List.prefix_append ..
  have hpre : w₂.trace <+: w₃.trace := by
    rcases tbSqlFetch_row hfetch with ⟨-, rfl, -⟩ | rfl <;> exact List.prefix_append ..
  have hquery := fetchTsn_query h
  obtain ⟨⟨tsn, rest, rows, hrow⟩, hdata⟩ := hanswered _ _ _ hquery hrc₁
  have hlen₂ : w₂.trace.length = w.trace.length + 2 := by simp [htrace₂]
  rcases tbSqlFetch_row hfetch with ⟨hrc₃, hw₃, hbatch⟩ | rfl
  · have hstmt₂ : w₂.stmts tbStmt.hstmt =
        { w.stmts tbStmt.hstmt with pending := env.result w.trace.length } := by
      rw [hw₂, World.called_stmts hrc₂, World.called_stmts hrc₁]
      simp [SqlCall.effect, setStmt]
    have hlen₃ : w₃.trace.length = w.trace.length + 3 := by simp [hw₃, hlen₂]
    have htime₃ : w₃.statementStart = w.statementStart := by simp [hw₃, hw₂]
    have hconn₃ : w₃.conn = w.conn := by simp [hw₃, hw₂]
    rw [World.nextRc, World.called_length] at hrc₂
    rw [World.nextRc, hlen₂] at hrc₃
    rw [World.nextRc, hw₄, World.setConn_trace, hlen₃] at hrc₄
    refine ⟨?_, hpre₀.trans (hpre.trans (htrace ▸ List.prefix_append ..)), ?_, ?_, hquery, ?_, ?_⟩
    · rw [hw', hw₄, hconn₃.symm]
      simp [htime₃]
    · simp [htrace, hlen₃]
    · intro i hi
      obtain rfl | rfl | rfl | rfl : i = 0 ∨ i = 1 ∨ i = 2 ∨ i = 3 := by omega
      · exact hrc₁
      · exact hrc₂
      · exact hrc₃
      · exact hrc₄
    · rw [htrace, hw₃]
      simp [World.called, World.issued, World.nextRc, hlen₂]
    · intro hsize
      refine ⟨tsn, rest, rows, hrow, ?_⟩
      rw [hbatch, hstmt₂, hrow, hsize] at hstore
      rw [storeTsn_first hstore] at hw'
      rw [hw', World.setConn_self]
      simp
  · -- the query has found no row
    refine (hdata ?_).elim
    rw [htrace]
    simp [World.issued, hlen₂]

/-! ## Opening a statement -/

/-- A new statement fetches one row at a time. -/
theorem allocStatement_fresh {tbStmt stmt : TbStatement}
    (h : allocStatement env tbStmt w = .ok stmt w') :
    sqlSucceeded (env.rc w.trace.length) = true ∧ w'.stmts stmt.hstmt = DriverStmt.fresh := by
  have hrc : sqlSucceeded (w.nextRc env) = true := by
    rw [allocStatement, Proc.read_bind_run] at h
    obtain ⟨_, _, halloc, -⟩ := Proc.bind_eq_ok.mp h
    exact (tbSqlAllocHandle_pure_eq_ok.mp halloc).1
  obtain ⟨rfl, rfl, -⟩ := allocStatement_ok h
  refine ⟨hrc, ?_⟩
  rw [World.called_stmts hrc]
  simp [SqlCall.effect, setStmt]

theorem World.begun_rowArraySize (w : World) (tbStmt : TbStatement) (isSerializable : Bool)
    (h : Handle) :
    ((w.begun env tbStmt isSerializable).stmts h).rowArraySize = (w.stmts h).rowArraySize := by
  have hcalled : ∀ (w : World) (call : SqlCall),
      (∀ n stmts, (call.effect env n stmts h).rowArraySize = (stmts h).rowArraySize) →
      ((w.called env call).stmts h).rowArraySize = (w.stmts h).rowArraySize := by
    intro w call hcall
    rw [World.called, World.issued]
    dsimp only
    split_ifs
    · exact hcall _ _
    · rfl
  rw [World.begun, World.setConn_stmts, hcalled, hcalled]
  · exact fun _ _ => rfl
  · intro n stmts
    rw [SqlCall.effect, setStmt]
    split_ifs <;> rfl

/-- What a statement is opened with. -/
structure SnapshotOpened (env : Environment) (useFbQuery : Bool) (key : ConnCacheKey)
    (w w' : World) (stmt : TbStatement) : Prop where
  tsn : stmt.tsn = (w'.conn key).tsn
  kept : (useFbQuery && needRemoteSnapshot w key) = false →
    (w'.conn key).tsn = (w.conn key).tsn ∧ (w'.conn key).stmtTs = (w.conn key).stmtTs
  query : (useFbQuery && needRemoteSnapshot w key) = true →
    ∃ n rc, w.trace.length ≤ n ∧ w'.trace[n]? = some ⟨.execDirect stmt.hstmt snapshotSql, rc⟩
  fetched : (useFbQuery && needRemoteSnapshot w key) = true →
    (w'.conn key).stmtTs = w.statementStart ∧ (TsnAnswered env w'.trace →
      TsnFetchedSince env w.trace.length (w'.conn key) w'.trace)

theorem openStatement_snapshot {tbStmt stmt : TbStatement} {useFbQuery : Bool}
    (h : openStatement env tbStmt useFbQuery w = .ok stmt w') :
    SnapshotOpened env useFbQuery tbStmt.conn w w' stmt := by
  have hopened := openStatement_ok h
  rw [openStatement] at h
  obtain ⟨stmt₁, w₁, halloc, h⟩ := Proc.bind_eq_ok.mp h
  rw [Proc.read_bind_run] at h
  obtain ⟨_, w₂, hbegin, h⟩ := Proc.bind_eq_ok.mp h
  rw [Proc.read_bind_run] at h
  obtain ⟨_, w₃, hsnapshot, h⟩ := Proc.bind_eq_ok.mp h
  cases h
  obtain ⟨hrc, hfresh⟩ := allocStatement_fresh halloc
  obtain ⟨hstmt₁, hw₁, -⟩ := allocStatement_ok halloc
  have hconn : stmt₁.conn = tbStmt.conn := by rw [hstmt₁]
  -- beginning the remote transaction leaves the snapshot and the new statement alone
  have hbegun : needRemoteSnapshot w₂ tbStmt.conn = needRemoteSnapshot w tbStmt.conn ∧
      (w₂.conn tbStmt.conn).tsn = (w.conn tbStmt.conn).tsn ∧
      (w₂.conn tbStmt.conn).stmtTs = (w.conn tbStmt.conn).stmtTs ∧
      w₂.statementStart = w.statementStart ∧ (w₂.stmts stmt₁.hstmt).rowArraySize = 1 ∧
      w₁.trace <+: w₂.trace := by
    rcases hb : (w₁.conn stmt₁.conn).beginRemoteXact with _ | _
    · rw [hb, Bool.not_false, Proc.when_true] at hbegin
      obtain ⟨rfl, -⟩ := beginRemoteXact_ok hbegin
      refine ⟨?_, ?_, ?_, ?_, ?_, ?_⟩
      · simp [needRemoteSnapshot, World.begun, hconn, hw₁]
      · simp [World.begun, hconn, hw₁]
      · simp [World.begun, hconn, hw₁]
      · simp [World.begun, hw₁]
      · rw [World.begun_rowArraySize, hfresh]
        rfl
      · exact (List.prefix_append ..).trans (List.prefix_append ..)
    · rw [hb, Bool.not_true, Proc.when_false] at hbegin
      cases hbegin
      refine ⟨?_, ?_, ?_, ?_, ?_, List.prefix_rfl⟩
      · simp [needRemoteSnapshot, hw₁]
      · simp [hw₁]
      · simp [hw₁]
      · simp [hw₁]
      · rw [hfresh]
        rfl
  obtain ⟨hneed, htsn, hstmtTs, htime, hsize, hpre⟩ := hbegun
  have hlen : w.trace.length < w₂.trace.length := by
    have hle := hpre.length_le
    rw [hw₁, World.called_length] at hle
    omega
  rw [hconn, hneed] at hsnapshot
  refine ⟨by rw [hconn], fun hnot => ?_, fun hdo => ?_, fun hdo => ?_⟩
  · rw [hnot] at hsnapshot
    cases hsnapshot
    exact ⟨htsn, hstmtTs⟩
  · rw [hdo, Proc.when_true] at hsnapshot
    exact ⟨_, _, Nat.le_of_lt hlen, fetchTsn_query hsnapshot⟩
  · rw [hdo, Proc.when_true] at hsnapshot
    obtain ⟨tsn, hentry⟩ := (fetchTsn_ok hsnapshot).entry
    rw [hconn] at hentry
    refine ⟨by rw [hentry, htime], fun hanswered => ?_⟩
    have hfetched := fetchTsn_fetched hsnapshot hanswered
    obtain ⟨tsn', rest, rows, hrow, hkept⟩ := hfetched.row hsize
    -- the statement was allocated before the query was sent
    have halloc' : w₁.trace[w.trace.length]? =
        some ⟨.allocHandle .stmt (w.conn tbStmt.conn).hdbc stmt₁.hstmt, env.rc w.trace.length⟩ := by
      rw [hw₁, hstmt₁]
      simp [World.called, World.issued, World.nextRc]
    refine ⟨stmt₁.hstmt, _, _, _, _, _, tsn', rest, rows, ?_, hrc, hlen, Nat.le_of_lt hlen,
      hfetched.query, hfetched.succeeded 0 (by omega), hrow, hfetched.fetch,
      hfetched.succeeded 2 (by omega), hconn ▸ hkept⟩
    rw [hopened.hdbc]
    exact getElem?_of_isPre (hpre.trans hfetched.trace) halloc'

/-! ## What is left of a snapshot -/

/-- A new connection has no snapshot. -/
theorem makeTbConnection_stmtTs {user : UserMapping} {u : Unit}
    (h : makeTbConnection pg env key user w = .ok u w') : (w'.conn key).stmtTs = 0 := by
  obtain ⟨w₁, hserver, -, -⟩ := getForeignServer_run env user.serverid w
  rw [makeTbConnection, Proc.bind_of_ok hserver] at h
  obtain ⟨_, w₂, hreset, h⟩ := Proc.bind_eq_ok.mp h
  cases hreset
  obtain ⟨params, w₃, hoptions, h⟩ := Proc.bind_eq_ok.mp h
  obtain ⟨keep, hnext⟩ := applyConnectionOptions_next
    (w₁.setConn key (resetEntry env (env.foreignServer w.lookups user.serverid) user)) key pg
    (env.foreignServer w.lookups user.serverid).options ⟨none, none, none, none, none⟩
  rw [hoptions, Outcome.next_ok] at hnext
  rw [(connectTbServer_ok h).entry, hnext]
  simp [resetEntry]

/-- The connection that a statement is opened on was there, or has no snapshot. -/
theorem ensureConnection_stmtTs {user : UserMapping} {u : Unit}
    (h : ensureConnection pg env key user w = .ok u w') :
    ((w.conn key).upToDate = true ∧ w' = w) ∨
      ((w.conn key).upToDate = false ∧ (w'.conn key).stmtTs = 0 ∧
        (w'.conn key).beginRemoteXact = false) := by
  rcases ensureConnection_ok h with hsame | ⟨hold, hreplaced⟩
  · exact .inl hsame
  refine .inr ⟨hold, ?_, hreplaced.beginRemoteXact⟩
  rw [ensureConnection, Proc.read_bind_run] at h
  obtain ⟨_, w₁, hdrop, h⟩ := Proc.bind_eq_ok.mp h
  rw [Proc.read_bind_run] at h
  rcases hconn : (w₁.conn key).connected with _ | _
  · rw [hconn] at h
    exact makeTbConnection_stmtTs h
  · -- an old connection that is up to date
    rw [hconn] at h
    cases h
    rcases hboth : ((w.conn key).connected && (w.conn key).invalidated) with _ | _
    · rw [hboth] at hdrop
      cases hdrop
      rw [ConnCacheEntry.upToDate] at hold
      rw [hconn, Bool.true_and] at hold hboth
      rw [hboth] at hold
      cases hold
    · rw [hboth, Proc.when_true] at hdrop
      rcases disconnectTbServer_ok hdrop with ⟨hno, -⟩ | ⟨-, rfl, -⟩
      · rw [hno] at hboth
        cases hboth
      · rw [World.disconnected_connected] at hconn
        cases hconn

/-- The second attempt leaves no snapshot. -/
theorem retryTbStatement_stmtTs {user : UserMapping} {tbStmt stmt : TbStatement}
    (h : retryTbStatement pg env user tbStmt w = .ok stmt w') :
    stmt.conn = tbStmt.conn ∧ (w'.conn tbStmt.conn).stmtTs = 0 := by
  rw [retryTbStatement] at h
  obtain ⟨_, w₁, hdisconnect, h⟩ := Proc.bind_eq_ok.mp h
  obtain ⟨_, w₂, hmake, h⟩ := Proc.bind_eq_ok.mp h
  obtain ⟨stmt₁, w₃, halloc, h⟩ := Proc.bind_eq_ok.mp h
  rw [Proc.read_bind_run] at h
  obtain ⟨_, w₄, hbegin, h⟩ := Proc.bind_eq_ok.mp h
  cases h
  obtain ⟨rfl, rfl, -⟩ := allocStatement_ok halloc
  obtain ⟨rfl, -⟩ := beginRemoteXact_ok hbegin
  refine ⟨rfl, ?_⟩
  simp [World.begun, makeTbConnection_stmtTs hmake]

/-! ## Over any run -/

/-- The snapshots of the entries are from the running statement, which started
after `since` calls, or from an earlier one. -/
structure SnapshotsKept (env : Environment) (since : Nat) (w : World) : Prop where
  started : 0 < w.statementStart
  past : since ≤ w.trace.length
  earlier : ∀ k, w.Live k → (w.conn k).stmtTs ≤ w.statementStart
  fetched : ∀ k, w.Live k → (w.conn k).stmtTs = w.statementStart →
    TsnFetchedSince env since (w.conn k) w.trace

variable {since : Nat}

theorem SnapshotsKept.settled (h : SnapshotsKept env since w) (hs : Settled w w') :
    SnapshotsKept env since w' := by
  have hlive : ∀ k, w'.Live k → w.Live k ∧ EntryKept (w.conn k) (w'.conn k) := by
    rintro k ⟨hk, hconn⟩
    have hkept := hs.entry k hconn
    exact ⟨⟨hs.keys ▸ hk, hkept.connected⟩, hkept⟩
  refine ⟨hs.statementStart ▸ h.started, Nat.le_trans h.past hs.trace.length_le, ?_, ?_⟩
  · intro k hk
    obtain ⟨hk, hkept⟩ := hlive k hk
    rw [hkept.stmtTs, hs.statementStart]
    exact h.earlier k hk
  · intro k hk heq
    obtain ⟨hk, hkept⟩ := hlive k hk
    rw [hkept.stmtTs, hs.statementStart] at heq
    exact (h.fetched k hk heq).mono (Nat.le_refl _) hkept.hdbc hkept.tsn hs.trace

/-- What has to be shown about the entry itself. -/
theorem SnapshotsKept.of_touches (h : SnapshotsKept env since w)
    (ht : Touches key (w.entered env key) w')
    (hentry : (w'.conn key).connected = true → (w'.conn key).stmtTs ≤ w.statementStart ∧
      ((w'.conn key).stmtTs = w.statementStart →
        TsnFetchedSince env since (w'.conn key) w'.trace)) : SnapshotsKept env since w' := by
  have htime : w'.statementStart = w.statementStart := by rw [ht.statementStart]; simp
  have htrace : w.trace <+: w'.trace := by
    have := ht.trace
    rwa [World.entered_trace] at this
  have hlive : ∀ k, k ≠ key → w'.Live k → w.Live k ∧ EntryKept (w.conn k) (w'.conn k) := by
    rintro k hne ⟨hk, hconn⟩
    have hkept := ht.others k hne hconn
    rw [World.entered_conn_of_ne env hne] at hkept
    rw [ht.keys, World.mem_entered_keys] at hk
    exact ⟨⟨hk.resolve_left hne, hkept.connected⟩, hkept⟩
  refine ⟨htime ▸ h.started, Nat.le_trans h.past htrace.length_le, ?_, ?_⟩
  · intro k hk
    by_cases hne : k = key
    · rw [hne, htime]
      exact (hentry (hne ▸ hk.2)).1
    · obtain ⟨hk, hkept⟩ := hlive k hne hk
      rw [hkept.stmtTs, htime]
      exact h.earlier k hk
  · intro k hk heq
    rw [htime] at heq
    by_cases hne : k = key
    · subst hne
      exact (hentry hk.2).2 heq
    · obtain ⟨hk, hkept⟩ := hlive k hne hk
      rw [hkept.stmtTs] at heq
      exact (h.fetched k hk heq).mono (Nat.le_refl _) hkept.hdbc hkept.tsn htrace

/-- What the first attempt hands out, and what it leaves in the entry. -/
structure Attempted (env : Environment) (since : Nat) (useFbQuery : Bool) (key : ConnCacheKey)
    (w w' : World) (stmt : TbStatement) : Prop where
  stmtConn : stmt.conn = key
  tsn : stmt.tsn = (w'.conn key).tsn
  earlier : (w'.conn key).stmtTs ≤ w.statementStart
  fetched : (w'.conn key).stmtTs = w.statementStart →
    TsnFetchedSince env since (w'.conn key) w'.trace
  now : useFbQuery = true → w.isolationUsesXactSnapshot = false →
    (w'.conn key).stmtTs = w.statementStart

theorem SnapshotsKept.attempted {user : UserMapping} {tbStmt stmt : TbStatement}
    {useFbQuery : Bool} (h : SnapshotsKept env since w) (hconn : tbStmt.conn = key)
    (hrun : tryTbStatement pg env user tbStmt useFbQuery (w.entered env key) = .ok stmt w')
    (hanswered : TsnAnswered env w'.trace) : Attempted env since useFbQuery key w w' stmt := by
  subst hconn
  rw [tryTbStatement] at hrun
  obtain ⟨_, w₁, hensure, hopen⟩ := Proc.bind_eq_ok.mp hrun
  have hopened := openStatement_ok hopen
  have hsnapshot := openStatement_snapshot hopen
  have htouches := ensureConnection_touches hensure
  have hpre : w₁.trace <+: w'.trace := by
    have hkeeps : Proc.Keeps (Touches tbStmt.conn w₁) (openStatement env tbStmt useFbQuery) :=
      (snapshotRules_touches env w₁ tbStmt.conn).openStatement rfl useFbQuery
    have hopen' := hkeeps.next (Touches.refl _ w₁)
    rw [hopen] at hopen'
    exact hopen'.trace
  have htime : w₁.statementStart = w.statementStart := by rw [htouches.statementStart]; simp
  have hsince : since ≤ w₁.trace.length := by
    have hle := htouches.trace.length_le
    rw [World.entered_trace] at hle
    exact Nat.le_trans h.past hle
  -- the entry before the statement is opened
  have hentry : (w₁.conn tbStmt.conn).stmtTs ≤ w.statementStart ∧
      ((w₁.conn tbStmt.conn).stmtTs = w.statementStart →
        TsnFetchedSince env since (w₁.conn tbStmt.conn) w₁.trace) := by
    rcases ensureConnection_stmtTs hensure with ⟨hup, rfl⟩ | ⟨-, hzero, -⟩
    · rw [ConnCacheEntry.upToDate, Bool.and_eq_true] at hup
      obtain ⟨hlive, hsame⟩ := World.entered_connected hup.1
      rw [hsame, World.entered_trace]
      exact ⟨h.earlier _ hlive, h.fetched _ hlive⟩
    · rw [hzero]
      have hstarted := h.started
      exact ⟨Int.le_of_lt hstarted, fun heq => by omega⟩
  -- the snapshot is kept, or fetched for this statement
  rcases hneed : (useFbQuery && needRemoteSnapshot w₁ tbStmt.conn) with _ | _
  · obtain ⟨htsn, hstmtTs⟩ := hsnapshot.kept hneed
    refine ⟨hopened.stmtConn, hsnapshot.tsn, ?_, ?_, ?_⟩
    · rw [hstmtTs]
      exact hentry.1
    · intro heq
      rw [hstmtTs] at heq
      exact (hentry.2 heq).mono (Nat.le_refl _) hopened.hdbc htsn hpre
    · intro huse hiso
      have hiso₁ : w₁.isolationUsesXactSnapshot = false := by
        rcases ensureConnection_ok hensure with ⟨-, rfl⟩ | ⟨-, hreplaced⟩
        · rw [World.entered_isolation, hiso]
        · rw [hreplaced.isolation, World.entered_isolation, hiso]
      rw [huse, Bool.true_and, needRemoteSnapshot, hiso₁, Bool.not_false, Bool.true_and,
        decide_eq_false_iff_not, not_not] at hneed
      rw [hstmtTs, hneed, htime]
  · obtain ⟨hstmtTs, hevidence⟩ := hsnapshot.fetched hneed
    rw [htime] at hstmtTs
    refine ⟨hopened.stmtConn, hsnapshot.tsn, Int.le_of_eq hstmtTs, fun _ => ?_, fun _ _ => hstmtTs⟩
    exact (hevidence hanswered).mono hsince rfl rfl List.prefix_rfl

/-- `get_tb_statement` keeps the snapshots, on both exits. -/
theorem getTbStatement_snapshotsKept (user : UserMapping) (tbStmt : TbStatement)
    (useFbQuery : Bool) :
    Proc.Keeps (fun w => TsnAnswered env w.trace → SnapshotsKept env since w)
      (getTbStatement pg env user tbStmt useFbQuery) := by
  intro w h
  have htouches := getTbStatement_touches pg env user tbStmt useFbQuery w
  have hpre := htouches.trace
  rw [World.entered_trace] at hpre
  rcases hrun : getTbStatement pg env user tbStmt useFbQuery w with ⟨stmt, w'⟩ | ⟨e, w'⟩ <;>
    rw [hrun] at htouches hpre
  · intro hanswered
    have hkept := h (hanswered.of_prefix hpre)
    refine hkept.of_touches htouches fun _ => ?_
    rcases getTbStatement_ok hrun with htry | ⟨err, w₁, -, -, hretry⟩
    · have hattempted := hkept.attempted rfl htry hanswered
      exact ⟨hattempted.earlier, hattempted.fetched⟩
    · have hzero := (retryTbStatement_stmtTs hretry).2
      have hstarted := hkept.started
      rw [hzero]
      exact ⟨Int.le_of_lt hstarted, fun heq => by omega⟩
  · intro hanswered
    have hlost := getTbStatement_lost hrun
    refine (h (hanswered.of_prefix hpre)).of_touches htouches fun hconn => ?_
    rw [hlost] at hconn
    cases hconn

theorem callbackRules_snapshotsKept (pg : Postgres) (env : Environment) (since : Nat) :
    CallbackRules pg env (fun w => TsnAnswered env w.trace → SnapshotsKept env since w)
      fun _ _ w => TsnAnswered env w.trace → SnapshotsKept env since w := by
  have hsettled : ∀ w w', Settled w w' → (TsnAnswered env w.trace → SnapshotsKept env since w) →
      TsnAnswered env w'.trace → SnapshotsKept env since w' :=
    fun w w' hs h hanswered => (h (hanswered.of_prefix hs.trace)).settled hs
  refine .of_settled hsettled getTbStatement_snapshotsKept (getForeignServer_keeps hsettled ?_)
  intro w lookups h hanswered
  have hkept := h hanswered
  exact ⟨hkept.started, hkept.past, hkept.earlier, hkept.fetched⟩

/-- Each statement starts later than the one before. -/
def ClockRuns (op : BackendOp) (_ : Backend) (w : World) : Prop :=
  match op with
  | .startStatement timestamp => w.statementStart < timestamp
  | _ => True

theorem snapshotsKept_step {op : BackendOp} {b b' : Backend} (hclock : ClockRuns op b w)
    (h : TsnAnswered env w.trace → SnapshotsKept env b.statementFrom w)
    (hrun : op.step pg env b w = .ok b' w') :
    TsnAnswered env w'.trace → SnapshotsKept env b'.statementFrom w' := by
  rcases hop : op.setsMoment with _ | _
  · rw [BackendOp.step_statementFrom hop hrun]
    have hkeeps := (callbackRules_snapshotsKept pg env b.statementFrom).keeps_step hop b w h
    rw [hrun] at hkeeps
    exact hkeeps
  cases op with
  | startTransaction isolationUsesXactSnapshot =>
    cases hrun
    intro hanswered
    have hkept := h hanswered
    exact ⟨hkept.started, hkept.past, hkept.earlier, hkept.fetched⟩
  | startStatement timestamp =>
    cases hrun
    intro hanswered
    have hkept := h hanswered
    have hlt : w.statementStart < timestamp := hclock
    -- no entry bears the start of the new statement yet
    refine ⟨Int.lt_trans hkept.started hlt, Nat.le_refl _,
      fun k hk => Int.le_of_lt (Int.lt_of_le_of_lt (hkept.earlier k hk) hlt), fun k hk heq => ?_⟩
    have hle := hkept.earlier k hk
    dsimp only at heq
    omega
  | _ => cases hop

/-- **The snapshots of a backend.** In every run whose clock goes forward, the TSN of a connection
is from the running statement or from an earlier one; in the first case it was fetched after the
statement had started. -/
theorem runBackend_snapshotsKept {ops : List BackendOp} {b : Backend} {w₀ : World}
    (hkeys : w₀.keys = []) (hstarted : 0 < w₀.statementStart)
    (hclock : Proc.StepsMeet ClockRuns (BackendOp.step pg env) ops Backend.start w₀)
    (hrun : runBackend pg env ops Backend.start w₀ = .ok b w)
    (hanswered : TsnAnswered env w.trace) :
    SnapshotsKept env b.statementFrom w := by
  have hstart : TsnAnswered env w₀.trace → SnapshotsKept env Backend.start.statementFrom w₀ := by
    have hnone : ∀ k, ¬w₀.Live k := by
      rintro k ⟨hk, -⟩
      rw [hkeys] at hk
      cases hk
    exact fun _ => ⟨hstarted, Nat.zero_le _, fun k hk => (hnone k hk).elim,
      fun k hk => (hnone k hk).elim⟩
  exact Proc.fold_ok (I := fun b w => TsnAnswered env w.trace → SnapshotsKept env b.statementFrom w)
    (fun _ _ _ _ _ hok h hstep => snapshotsKept_step hok h hstep) hclock hstart hrun hanswered

end

end TiberoFdw
