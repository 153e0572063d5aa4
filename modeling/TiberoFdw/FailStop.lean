import TiberoFdw.SessionRecords

/-!
# A session serves one user mapping, up to its first failure

The functions of `connection.c` keep the records of the sessions sound: a call of a
wrapper either succeeds or ends the session it was issued in, and a new connection has a
handle that no statement and no other entry has. So do all callbacks, and with them every
run of a backend: whatever fails in it, at whatever call,

* a scan or a modification works in a session that was opened with the options of its own
  user mapping (`sessions_ownString`);
* a remote transaction in which a call has failed is never committed (`commits_unfailed`).
-/

namespace TiberoFdw

/-- The statements in `S`, and one more. -/
def Along (S : Handle → ConnCacheKey → Prop) (hstmt : Handle) (key : ConnCacheKey) :
    Handle → ConnCacheKey → Prop :=
  fun h k => S h k ∨ (h = hstmt ∧ k = key)

/-- What holds while the statement is used: the records are sound, and the frame, which says
what the calls leave alone. -/
def SessionsUsing (Own : ConnCacheKey → Text → Prop) (S : Handle → ConnCacheKey → Prop)
    (frame : ConnCacheKey → (ConnCacheKey → ConnCacheEntry) → List ConnCacheKey → Prop)
    (hstmt : Handle) (key : ConnCacheKey) (w : World) : Prop :=
  SessionsSound Own (Along S hstmt key) w ∧ frame key w.conn w.keys

/-- The entry is connected. -/
def liveFrame (key : ConnCacheKey) (conn : ConnCacheKey → ConnCacheEntry)
    (keys : List ConnCacheKey) : Prop :=
  key ∈ keys ∧ (conn key).connected = true

section

variable {pg : Postgres} {env : Environment} {w w' : World} {key : ConnCacheKey}
  {Own : ConnCacheKey → Text → Prop} {S : Handle → ConnCacheKey → Prop} {hstmt : Handle}
  {frame : ConnCacheKey → (ConnCacheKey → ConnCacheEntry) → List ConnCacheKey → Prop}

theorem SessionsSound.along (h : SessionsSound Own (Along S hstmt key) w) : SessionsSound Own S w :=
  h.mono fun _ _ => .inl

/-! ## Checked calls -/

/-- A call for the entry that opens nothing succeeds, or its failure is reported. -/
theorem SessionsSound.check (h : SessionsSound Own S w) (hframe : frame key w.conn w.keys)
    {call : SqlCall} (hfor : call.IsFor key w) (hopens : call.opens = false)
    (sqlerrcode : SqlState) (rc : SqlReturn) :
    Proc.Triple (· = w.issued env call rc) (checkReturn env key sqlerrcode rc)
      (fun _ w => SessionsSound Own S w ∧ frame key w.conn w.keys)
      fun _ => SessionsSound Own S := by
  rintro _ rfl
  by_cases hrc : sqlSucceeded rc = true
  · rw [checkReturn, if_pos hrc]
    exact ⟨h.issued hfor hopens (Issued.isFailure_of_succeeded hrc), hframe⟩
  · rw [checkReturn_fails_run hrc]
    exact ((h.troubled key).issued hfor (.inl hopens)).dropped hfor.entered

theorem tbCall_sound {call : SqlCall} (hopens : call.opens = false) :
    Proc.Triple (fun w => (SessionsSound Own S w ∧ frame key w.conn w.keys) ∧ call.IsFor key w)
      (tbCall env key call) (fun _ w => SessionsSound Own S w ∧ frame key w.conn w.keys)
      fun _ => SessionsSound Own S := by
  rintro w ⟨⟨h, hframe⟩, hfor⟩
  rw [tbCall, Proc.bind_of_ok (issue_run call)]
  exact h.check hframe hfor hopens .fdwError (w.nextRc env) _ rfl

/-- A call on the statement that is used. -/
theorem SessionsUsing.isFor (h : SessionsUsing Own S frame hstmt key w) {call : SqlCall}
    (hcall : call.connection? w.record.session = some (w.record.session hstmt))
    (hcommit : ∀ hdbc, call ≠ .endTran hdbc .commit) : call.IsFor key w := by
  have hused : Along S hstmt key hstmt key := .inr ⟨rfl, rfl⟩
  refine ⟨(h.1.stmts hstmt key hused).1, fun k hk heq => ?_, fun hdbc heq =>
    (hcommit hdbc heq).elim⟩
  exact h.1.uses hstmt key k hused hk (Option.some.inj (hcall.symm.trans heq))

theorem SqlCall.of_hstmt {call : SqlCall} (hcall : call.hstmt? = some hstmt) :
    call.opens = false ∧ (∀ session, call.connection? session = some (session hstmt)) ∧
      ∀ hdbc, call ≠ .endTran hdbc .commit := by
  cases call with
  | freeStmt h option =>
    cases option with
    | close =>
      cases hcall
      exact ⟨rfl, fun _ => rfl, by rintro _ ⟨⟩⟩
    | drop => cases hcall
  | execDirect | prepare | execute | fetch | bindCol | bindParameter | setStmtAttr | numResultCols
      | describeCol =>
    cases hcall
    exact ⟨rfl, fun _ => rfl, by rintro _ ⟨⟩⟩
  | _ => cases hcall

theorem sqlFetch_issues (env : Environment) (hstmt : Handle) (w : World) :
    ∃ r, sqlFetch env hstmt w = .ok r (w.issued env (.fetch hstmt) r.1) := by
  rw [sqlFetch]
  split_ifs <;> exact ⟨_, rfl⟩

variable (env Own S frame) in
/-- **Every checked call on a statement** keeps the records sound. One that fails ends its session,
so the record of the entry goes with it. -/
theorem checkedRules_sessions :
    CheckedRules env (SessionsSound Own S) (SessionsUsing Own S frame) where
  inv _ _ _ h := h.1.along
  call hstmt key call hcall := by
    obtain ⟨hopens, hconnection, hcommit⟩ := SqlCall.of_hstmt hcall
    exact .weaken (tbCall_sound hopens) (fun w h => ⟨h, h.isFor (hconnection _) hcommit⟩)
      (fun _ _ h => h) fun _ _ h => h.along
  fetch tbStmt := by
    rintro w h
    have hfor : (SqlCall.fetch tbStmt.hstmt).IsFor tbStmt.conn w := h.isFor rfl (by rintro _ ⟨⟩)
    -- the end of the result is not a failure
    have hend : SessionsUsing Own S frame tbStmt.hstmt tbStmt.conn
        (w.issued env (.fetch tbStmt.hstmt) SQL_NO_DATA) := ⟨h.1.issued hfor rfl rfl, h.2⟩
    have hcheck : ∀ (batch : List Row) rc, Proc.Triple (· = w.issued env (.fetch tbStmt.hstmt) rc)
        (if rc = SQL_NO_DATA then pure (batch, true)
          else do
            checkReturn env tbStmt.conn .fdwError rc
            pure (batch, false) : Fdw (List Row × Bool))
        (fun _ => SessionsUsing Own S frame tbStmt.hstmt tbStmt.conn)
        fun _ => SessionsSound Own S := by
      intro batch rc
      split_ifs with hrc
      · refine .pure ?_
        rintro _ rfl
        rw [hrc]
        exact hend
      · refine .bind ?_ fun _ => .pure fun _ h => h
        exact .weaken (h.1.check h.2 hfor rfl _ rc) (fun _ h => h) (fun _ _ h => h)
          fun _ _ h => h.along
    obtain ⟨⟨rc, batch⟩, hfetch⟩ := sqlFetch_issues env tbStmt.hstmt w
    rw [tbSqlFetch, Proc.bind_of_ok hfetch]
    exact hcheck batch rc _ rfl
  execute tbStmt := by
    rintro w h
    have hexecute : sqlExecute env tbStmt.hstmt w = .ok (w.nextRc env)
        (w.issued env (.execute tbStmt.hstmt (w.paramValues tbStmt.hstmt)) (w.nextRc env)) := rfl
    have hfor : (SqlCall.execute tbStmt.hstmt (w.paramValues tbStmt.hstmt)).IsFor tbStmt.conn w :=
      h.isFor rfl (by rintro _ ⟨⟩)
    rw [tbSqlExecute, Proc.bind_of_ok hexecute]
    refine Proc.Triple.bind ((h.1.check h.2 hfor rfl .fdwError _).weaken (fun _ h => h)
      (fun _ _ h => h) fun _ _ h => h.along) (fun _ => .pure fun w h => ?_) _ rfl
    exact ⟨rfl, rfl, h⟩
  report hstmt key sqlerrcode msg w h := by
    have hkey : key ∈ w.keys := (h.1.stmts hstmt key (.inr ⟨rfl, rfl⟩)).1
    have hdropped : SessionsSound Own (Along S hstmt key) (dropConnection env key w).next :=
      (h.1.troubled key).dropped hkey
    rw [dropConnection_eq] at hdropped
    rw [tbFdwReportError, Proc.bind_of_ok dropConnection_eq]
    exact hdropped.along

/-! ## Opening a statement -/

/-- The new handle is a statement of the session of the entry. -/
theorem SessionsSound.opened (h : SessionsSound Own S w) (hlive : w.Live key) {rc : SqlReturn}
    (hrc : sqlSucceeded rc = true) :
    SessionsSound Own (Along S (w.trace.length + 1) key)
      (w.issued env (.allocHandle .stmt (w.conn key).hdbc (w.trace.length + 1)) rc) := by
  have hlen := @World.issued_length env w
    (.allocHandle .stmt (w.conn key).hdbc (w.trace.length + 1)) rc
  obtain ⟨hdbcLe, hopened⟩ := h.live key hlive
  have hle : w.trace.length ≤ w.trace.length + 1 := Nat.le_succ _
  have hold : ∀ {hstmt k}, S hstmt k → hstmt ≠ w.trace.length + 1 := fun hS =>
    Nat.ne_of_lt (Nat.lt_succ_of_le (h.stmts _ _ hS).2.1)
  refine ⟨⟨h.commits.concat (by rintro _ ⟨⟩), ?_, h.distinct, ?_, ?_, ?_⟩, ?_⟩
  · intro k hk
    rw [World.OpenedFor, World.issued_record_ok hrc, hlen]
    exact ⟨Nat.le_trans (h.live k hk).1 hle, (h.live k hk).2⟩
  · rintro hstmt k (hS | ⟨rfl, rfl⟩)
    · obtain ⟨hkey, hstmtLe, hsessionLe, hopen⟩ := h.stmts hstmt k hS
      rw [World.OpenedFor, World.issued_record_ok hrc, hlen]
      simp only [SessionRecord.effect, Remote.set_of_ne (hold hS)]
      exact ⟨hkey, Nat.le_trans hstmtLe hle, Nat.le_trans hsessionLe hle, hopen⟩
    · rw [World.OpenedFor, World.issued_record_ok hrc, hlen]
      simp only [SessionRecord.effect, Remote.set_same]
      exact ⟨hlive.1, Nat.le_refl _, Nat.le_trans hdbcLe hle, hopened⟩
  · rintro hstmt k k' (hS | ⟨rfl, rfl⟩) hk' heq
    · rw [World.issued_record_ok hrc] at heq
      simp only [SessionRecord.effect, Remote.set_of_ne (hold hS)] at heq
      exact h.uses hstmt k k' hS hk' heq
    · rw [World.issued_record_ok hrc] at heq
      simp only [SessionRecord.effect, Remote.set_same] at heq
      exact (h.distinct k k' hlive hk' heq).symm
  · -- a statement of the same session is one of the entry
    rw [World.issued_record_ok hrc]
    rintro hstmt k hstmt' k' (hS | ⟨rfl, rfl⟩) (hS' | ⟨rfl, rfl⟩) heq
    · simp only [SessionRecord.effect, Remote.set_of_ne (hold hS), Remote.set_of_ne (hold hS')]
        at heq
      exact h.shares hstmt k hstmt' k' hS hS' heq
    · simp only [SessionRecord.effect, Remote.set_of_ne (hold hS), Remote.set_same] at heq
      exact (h.uses hstmt k k' hS hlive heq).symm
    · simp only [SessionRecord.effect, Remote.set_of_ne (hold hS'), Remote.set_same] at heq
      exact h.uses hstmt' k' k hS' hlive heq.symm
    · rfl
  · intro k hk
    rw [World.issued_record_ok hrc]
    exact h.unfailed k hk

theorem allocStatement_sound {tbStmt : TbStatement} (hconn : tbStmt.conn = key) :
    Proc.Triple (fun w => SessionsSound Own S w ∧ w.Live key) (allocStatement env tbStmt)
      (fun stmt w => stmt.conn = key ∧ SessionsUsing Own S liveFrame stmt.hstmt key w)
      fun _ => SessionsSound Own S := by
  rintro w ⟨h, hlive⟩
  subst hconn
  rw [allocStatement, Proc.read_bind_run]
  by_cases hrc : sqlSucceeded (w.nextRc env) = true
  · rw [Proc.bind_of_ok (tbSqlAllocHandle_pure_eq_ok.mpr ⟨hrc, rfl, rfl⟩)]
    exact ⟨rfl, h.opened hlive hrc, hlive⟩
  · have hstore : ∀ (_ : Handle) (w : World), (pure () : Fdw Unit) w = .ok () w := fun _ _ => rfl
    have hfails : tbSqlAllocHandle env tbStmt.conn .stmt (w.conn tbStmt.conn).hdbc
        (fun _ => pure ()) w = _ := tbSqlAllocHandle_fails_run hstore hrc
    have hfor : (SqlCall.allocHandle .stmt (w.conn tbStmt.conn).hdbc SQL_NULL_HANDLE).IsFor
        tbStmt.conn w :=
      SqlCall.isFor_of_live h.toSessionsOwned hlive (by rintro _ ⟨⟩; rfl) (by rintro _ ⟨⟩)
    rw [Proc.bind_of_raise hfails]
    exact ((h.troubled tbStmt.conn).issued hfor
      (.inr (Issued.isFailure_of_failed (by rintro _ ⟨⟩) hrc))).dropped hlive.1

theorem serves_beginRemoteXact_sound {tbStmt : TbStatement} (isSerializable : Bool) :
    Serves (SessionsSound Own S) (SessionsUsing Own S liveFrame) tbStmt.hstmt tbStmt.conn
      (beginRemoteXact env tbStmt isSerializable) := by
  have R := checkedRules_sessions env Own S liveFrame
  have hattr : Serves (SessionsSound Own S) (SessionsUsing Own S liveFrame) tbStmt.hstmt
      tbStmt.conn (tbSqlSetConnectAttr env tbStmt.conn SQL_ATTR_AUTOCOMMIT SQL_AUTOCOMMIT_OFF) := by
    rintro w h
    have hfor : (SqlCall.setConnectAttr (w.conn tbStmt.conn).hdbc SQL_ATTR_AUTOCOMMIT
        SQL_AUTOCOMMIT_OFF).IsFor tbStmt.conn w :=
      SqlCall.isFor_of_live h.1.toSessionsOwned h.2 (by rintro _ ⟨⟩; rfl) (by rintro _ ⟨⟩)
    exact (tbCall_sound rfl).weaken (fun _ h => h) (fun _ _ h => h) (fun _ _ h => h.along) w
      ⟨h, hfor⟩
  refine hattr.bind fun _ => (R.serves_call rfl).bind fun _ => .modify fun w h => ?_
  exact ⟨h.1.setConn fun hc => ⟨hc, rfl⟩, h.2.1, by rw [World.setConn_self]; exact h.2.2⟩

theorem serves_fetchTsn_sound (tbStmt : TbStatement) :
    Serves (SessionsSound Own S) (SessionsUsing Own S liveFrame) tbStmt.hstmt tbStmt.conn
      (fetchTsn env tbStmt) := by
  have R := checkedRules_sessions env Own S liveFrame
  have hset : ∀ {w : World} {f : ConnCacheEntry → ConnCacheEntry},
      (∀ c, (f c).connected = c.connected ∧ (f c).hdbc = c.hdbc) →
      SessionsUsing Own S liveFrame tbStmt.hstmt tbStmt.conn w →
      SessionsUsing Own S liveFrame tbStmt.hstmt tbStmt.conn (w.setConn tbStmt.conn f) := by
    intro w f hf h
    refine ⟨h.1.setConn fun hc => ⟨(hf _).1.symm.trans hc, (hf _).2⟩, h.2.1, ?_⟩
    rw [World.setConn_self]
    exact (hf _).1.trans h.2.2
  have hstore : ∀ batch, Serves (SessionsSound Own S) (SessionsUsing Own S liveFrame)
      tbStmt.hstmt tbStmt.conn (storeTsn tbStmt.conn batch) := by
    intro batch
    unfold storeTsn
    split
    · exact .modify fun w h => hset (fun _ => ⟨rfl, rfl⟩) h
    · exact .pure _
  refine Serves.bind (R.serves_call rfl) fun _ => Serves.bind (R.serves_call rfl) fun _ => ?_
  refine Serves.bind (R.fetch tbStmt) fun r => Serves.bind (hstore _) fun _ => ?_
  exact Serves.bind (R.serves_call rfl) fun _ => .modify fun w h => hset (fun _ => ⟨rfl, rfl⟩) h

theorem openStatement_sound {tbStmt : TbStatement} (hconn : tbStmt.conn = key)
    (useFbQuery : Bool) :
    Proc.Triple (fun w => SessionsSound Own S w ∧ w.Live key) (openStatement env tbStmt useFbQuery)
      (fun stmt => SessionsUsing Own S liveFrame stmt.hstmt stmt.conn)
      fun _ => SessionsSound Own S := by
  refine Proc.Triple.bind (allocStatement_sound hconn) fun stmt => ?_
  rintro w ⟨rfl, h⟩
  have hrest : Proc.Triple (SessionsUsing Own S liveFrame stmt.hstmt stmt.conn) (do
      let w ← Proc.read
      Proc.when (!(w.conn stmt.conn).beginRemoteXact)
        (beginRemoteXact env stmt w.isolationUsesXactSnapshot)
      let w ← Proc.read
      Proc.when (useFbQuery && needRemoteSnapshot w stmt.conn) (fetchTsn env stmt)
      let w ← Proc.read
      pure { stmt with tsn := (w.conn stmt.conn).tsn } : Fdw TbStatement)
      (fun stmt => SessionsUsing Own S liveFrame stmt.hstmt stmt.conn)
      fun _ => SessionsSound Own S := by
    refine .look fun w => .bind (Serves.when (serves_beginRemoteXact_sound _)) fun _ => ?_
    refine .look fun w => .bind (Serves.when (serves_fetchTsn_sound stmt)) fun _ => ?_
    exact .look fun w => .pure fun _ h => h
  exact hrest w h

/-! ## Connecting and disconnecting -/

/-- The entry is there and has no connection. -/
def unconnectedFrame (key : ConnCacheKey) (conn : ConnCacheKey → ConnCacheEntry)
    (keys : List ConnCacheKey) : Prop :=
  key ∈ keys ∧ (conn key).connected = false

/-- `disconnect_tb_server` issues its calls in the session that it ends. -/
theorem disconnectTbServer_sound :
    Proc.Triple (fun w => SessionsSound Own S w ∧ key ∈ w.keys) (disconnectTbServer env key)
      (fun _ w => SessionsSound Own S w ∧ unconnectedFrame key w.conn w.keys)
      fun _ => SessionsSound Own S := by
  rintro w ⟨h, hkey⟩
  rw [disconnectTbServer, Proc.read_bind_run]
  rcases hconnected : (w.conn key).connected with _ | _
  · exact ⟨h, hkey, hconnected⟩
  have hlive : w.Live key := ⟨hkey, hconnected⟩
  -- the entry is the one it was while the calls are issued
  have hcall : ∀ call : SqlCall, call.opens = false →
      (∀ session hdbc, call.connection? session = some hdbc → hdbc = (w.conn key).hdbc) →
      (∀ hdbc, call ≠ .endTran hdbc .commit) →
      Proc.Triple (fun w₁ => SessionsSound Own S w₁ ∧ w₁.conn = w.conn ∧ w₁.keys = w.keys)
        (tbCall env key call)
        (fun _ w₁ => SessionsSound Own S w₁ ∧ w₁.conn = w.conn ∧ w₁.keys = w.keys)
        fun _ => SessionsSound Own S := by
    intro call hopens hsession hcommit
    refine Proc.Triple.strengthen_pre (@tbCall_sound env key Own S
      (fun _ conn keys => conn = w.conn ∧ keys = w.keys) call hopens) ?_
    rintro w₁ ⟨h₁, hconn, hkeys⟩
    refine ⟨⟨h₁, hconn, hkeys⟩, SqlCall.isFor_of_live h₁.toSessionsOwned ?_ ?_ fun hdbc heq =>
      (hcommit hdbc heq).elim⟩
    · rw [World.Live, hconn, hkeys]
      exact hlive
    · rw [hconn]
      exact hsession _
  have hrest : Proc.Triple (fun w₁ => SessionsSound Own S w₁ ∧ w₁.conn = w.conn ∧ w₁.keys = w.keys)
      (do
        tbSqlDisconnect env key
        tbSqlFreeHandle env key .dbc (w.conn key).hdbc
        tbSqlFreeHandle env key .env (w.conn key).henv
        modifyConn key fun c => { c with beginRemoteXact := false, connected := false } : Fdw Unit)
      (fun _ w => SessionsSound Own S w ∧ unconnectedFrame key w.conn w.keys)
      fun _ => SessionsSound Own S := by
    have hdisconnect : Proc.Triple
        (fun w₁ => SessionsSound Own S w₁ ∧ w₁.conn = w.conn ∧ w₁.keys = w.keys)
        (tbSqlDisconnect env key)
        (fun _ w₁ => SessionsSound Own S w₁ ∧ w₁.conn = w.conn ∧ w₁.keys = w.keys)
        fun _ => SessionsSound Own S := by
      rintro w₁ ⟨h₁, hconn, hkeys⟩
      rw [tbSqlDisconnect, Proc.read_bind_run, hconn]
      exact hcall _ rfl (by rintro _ _ ⟨⟩; rfl) (by rintro _ ⟨⟩) w₁ ⟨h₁, hconn, hkeys⟩
    refine .bind hdisconnect fun _ => ?_
    refine .bind (hcall _ rfl (by rintro _ _ ⟨⟩; rfl) (by rintro _ ⟨⟩)) fun _ => ?_
    refine .bind (hcall _ rfl (by rintro _ _ ⟨⟩) (by rintro _ ⟨⟩)) fun _ => .modify ?_
    rintro w₁ ⟨h₁, -, hkeys⟩
    refine ⟨h₁.setConn fun hc => ?_, ?_, by rw [World.setConn_self]⟩
    · cases hc
    · change key ∈ w₁.keys
      rw [hkeys]
      exact hkey
  exact hrest w ⟨h, rfl, rfl⟩

/-- A handle that no connected entry and no statement has. -/
structure World.Unused (w : World) (S : Handle → ConnCacheKey → Prop) (hdbc : Handle) : Prop where
  le : hdbc ≤ w.trace.length
  live : ∀ k, w.Live k → (w.conn k).hdbc ≠ hdbc
  stmts : ∀ h k, S h k → w.record.session h ≠ hdbc

/-- A session is opened on an unused handle. -/
theorem SessionsSound.dialed (h : SessionsSound Own S w) {hdbc : Handle} (hunused : w.Unused S hdbc)
    {connStr : Text} (hown : Own key connStr) {rc : SqlReturn} (hrc : sqlSucceeded rc = true) :
    SessionsSound Own S (w.issued env (.driverConnect hdbc connStr) rc) ∧
      (w.issued env (.driverConnect hdbc connStr) rc).Unused S hdbc ∧
      (w.issued env (.driverConnect hdbc connStr) rc).OpenedFor Own key hdbc ∧
      (w.issued env (.driverConnect hdbc connStr) rc).record.failed hdbc = false := by
  have hlen := @World.issued_length env w (.driverConnect hdbc connStr) rc
  have hle : w.trace.length ≤ w.trace.length + 1 := Nat.le_succ _
  have hopened : ∀ {k hdbc'}, hdbc' ≠ hdbc → w.OpenedFor Own k hdbc' →
      (w.issued env (.driverConnect hdbc connStr) rc).OpenedFor Own k hdbc' := by
    rintro k hdbc' hne ⟨s, hs, hsown⟩
    refine ⟨s, ?_, hsown⟩
    rw [World.issued_record_ok hrc]
    exact (Remote.set_of_ne hne).trans hs
  have hsession : (w.issued env (.driverConnect hdbc connStr) rc).record.session =
      w.record.session := by
    rw [World.issued_record_ok hrc]
    rfl
  refine ⟨⟨⟨h.commits.concat (by rintro _ ⟨⟩), ?_, h.distinct, ?_, ?_, hsession ▸ h.shares⟩, ?_⟩,
    ⟨?_, hunused.live, ?_⟩, ⟨connStr, ?_, hown⟩, ?_⟩
  · intro k hk
    rw [hlen]
    exact ⟨Nat.le_trans (h.live k hk).1 hle, hopened (hunused.live k hk) (h.live k hk).2⟩
  · intro hstmt k hS
    obtain ⟨hkey, hstmtLe, hsessionLe, hopen⟩ := h.stmts hstmt k hS
    rw [hsession, hlen]
    exact ⟨hkey, Nat.le_trans hstmtLe hle, Nat.le_trans hsessionLe hle,
      hopened (hunused.stmts hstmt k hS) hopen⟩
  · intro hstmt k k' hS hk' heq
    rw [hsession] at heq
    exact h.uses hstmt k k' hS hk' heq
  · intro k hk
    rw [World.issued_record_ok hrc]
    exact (Remote.set_of_ne (hunused.live k hk)).trans (h.unfailed k hk)
  · rw [hlen]
    exact Nat.le_trans hunused.le hle
  · rw [hsession]
    exact hunused.stmts
  · rw [World.issued_record_ok hrc]
    exact Remote.set_same ..
  · rw [World.issued_record_ok hrc]
    exact Remote.set_same ..

/-- The entry takes the session for its own. -/
theorem SessionsSound.connected (h : SessionsSound Own S w)
    (hunused : w.Unused S (w.conn key).hdbc) (hopened : w.OpenedFor Own key (w.conn key).hdbc)
    (hunfailed : w.record.failed (w.conn key).hdbc = false) :
    SessionsSound Own S (w.setConn key fun c => { c with connected := true }) := by
  have hhdbc : ∀ k, ((w.setConn key fun c => { c with connected := true }).conn k).hdbc =
      (w.conn k).hdbc := by
    intro k
    by_cases hk : k = key
    · subst hk
      rw [World.setConn_self]
    · rw [World.setConn_of_ne hk]
  have hlive : ∀ k, (w.setConn key fun c => { c with connected := true }).Live k → k ≠ key →
      w.Live k := by
    intro k hk hne
    rw [World.Live, World.setConn_of_ne hne] at hk
    exact hk
  refine ⟨⟨h.commits, ?_, ?_, h.stmts, ?_, h.shares⟩, ?_⟩
  · intro k hk
    rw [hhdbc]
    by_cases hne : k = key
    · subst hne
      exact ⟨hunused.le, hopened⟩
    · exact h.live k (hlive k hk hne)
  · intro k k' hk hk' heq
    rw [hhdbc, hhdbc] at heq
    by_cases hne : k = key
    · subst hne
      by_cases hne' : k' = k
      · exact hne'.symm
      · exact (hunused.live k' (hlive k' hk' hne') heq.symm).elim
    · by_cases hne' : k' = key
      · subst hne'
        exact (hunused.live k (hlive k hk hne) heq).elim
      · exact h.distinct k k' (hlive k hk hne) (hlive k' hk' hne') heq
  · intro hstmt k k' hS hk' heq
    rw [hhdbc] at heq
    by_cases hne' : k' = key
    · subst hne'
      exact (hunused.stmts hstmt k hS heq).elim
    · exact h.uses hstmt k k' hS (hlive k' hk' hne') heq
  · intro k hk
    rw [hhdbc]
    by_cases hne : k = key
    · subst hne
      exact hunfailed
    · exact h.unfailed k (hlive k hk hne)

/-- An environment or a connection handle is allocated. -/
theorem tbSqlAllocHandle_sound {handleType : HandleType} (htype : handleType ≠ .stmt)
    (inputHandle : Handle) {f : Handle → ConnCacheEntry → ConnCacheEntry}
    (hf : ∀ h c, (f h c).connected = c.connected) :
    Proc.Triple (fun w => SessionsSound Own S w ∧ unconnectedFrame key w.conn w.keys)
      (tbSqlAllocHandle env key handleType inputHandle fun h => modifyConn key (f h))
      (fun handle w => (SessionsSound Own S w ∧ unconnectedFrame key w.conn w.keys) ∧
        w.Unused S handle ∧ ∃ c, w.conn key = f handle c)
      fun _ => SessionsSound Own S := by
  rintro w ⟨h, hkey, hno⟩
  have hcall : ∀ outputHandle, (SqlCall.allocHandle handleType inputHandle outputHandle).opens =
      false ∧ (SqlCall.allocHandle handleType inputHandle outputHandle).IsFor key w := by
    intro outputHandle
    cases handleType with
    | env | dbc => exact ⟨rfl, hkey, by rintro _ _ ⟨⟩, by rintro _ ⟨⟩⟩
    | stmt => exact (htype rfl).elim
  have hset : ∀ {w₁ : World} (handle : Handle), SessionsSound Own S w₁ →
      (w₁.conn key).connected = false → SessionsSound Own S (w₁.setConn key (f handle)) := by
    intro w₁ handle h₁ hno₁
    refine h₁.setConn fun hc => ?_
    rw [hf, hno₁] at hc
    cases hc
  by_cases hrc : sqlSucceeded (w.nextRc env) = true
  · obtain ⟨hopens, hfor⟩ := hcall (w.trace.length + 1)
    have hissued : SessionsSound Own S
        (w.called env (.allocHandle handleType inputHandle (w.trace.length + 1))) :=
      h.issued hfor hopens (Issued.isFailure_of_succeeded hrc)
    have hrecord := @SessionRecord.step_session _ (w.nextRc env) w.record (.inl hopens)
    rw [tbSqlAllocHandle_conn_eq_ok.mpr ⟨hrc, rfl, rfl⟩]
    refine ⟨⟨hset _ hissued hno, hkey, ?_⟩, ⟨by simp, fun k hk => ?_, fun hstmt k hS => ?_⟩, ?_⟩
    · rw [World.setConn_self, hf]
      exact hno
    · -- the entry is not connected, and the handles of the others are older
      have hne : k ≠ key := by
        rintro rfl
        rw [World.Live, World.setConn_self, hf] at hk
        exact Bool.false_ne_true (hno.symm.trans hk.2)
      rw [World.Live, World.setConn_of_ne hne] at hk
      rw [World.setConn_of_ne hne]
      exact Nat.ne_of_lt (Nat.lt_succ_of_le (h.live k hk).1)
    · have hle := (h.stmts hstmt k hS).2.2.1
      change SessionRecord.session (World.record (w.called env _)) hstmt ≠ _
      rw [World.called, World.issued_record, hrecord.1]
      exact Nat.ne_of_lt (Nat.lt_succ_of_le hle)
    · exact ⟨_, World.setConn_self _⟩
  · obtain ⟨hopens, hfor⟩ := hcall SQL_NULL_HANDLE
    have hissued : SessionsSound Own S
        (w.called env (.allocHandle handleType inputHandle SQL_NULL_HANDLE)) := by
      refine ((h.troubled key).issued hfor (.inl hopens)).sound ?_
      rintro ⟨-, hc⟩
      exact Bool.false_ne_true (hno.symm.trans hc)
    rw [tbSqlAllocHandle_refused hrc (by rw [hf, hno])]
    exact hset _ hissued hno

/-- The connection string is one of the user mapping. -/
theorem tbSqlDriverConnect_sound {connStr : Text} (hown : Own key connStr) :
    Proc.Triple (fun w => (SessionsSound Own S w ∧ key ∈ w.keys) ∧ w.Unused S (w.conn key).hdbc)
      (tbSqlDriverConnect env key connStr)
      (fun _ w => (SessionsSound Own S w ∧ key ∈ w.keys) ∧ w.Unused S (w.conn key).hdbc ∧
        w.OpenedFor Own key (w.conn key).hdbc ∧ w.record.failed (w.conn key).hdbc = false)
      fun _ => SessionsSound Own S := by
  rintro w ⟨⟨h, hkey⟩, hunused⟩
  rw [tbSqlDriverConnect, Proc.read_bind_run, Proc.bind_of_ok (issue_run _)]
  by_cases hrc : sqlSucceeded (w.nextRc env) = true
  · rw [checkReturn, if_pos hrc]
    obtain ⟨hsound, hrest⟩ := h.dialed hunused hown hrc
    exact ⟨⟨hsound, hkey⟩, hrest⟩
  · have hfor : (SqlCall.driverConnect (w.conn key).hdbc connStr).IsFor key w :=
      ⟨hkey, fun k hk heq => (hunused.live k hk (Option.some.inj heq).symm).elim, by rintro _ ⟨⟩⟩
    rw [checkReturn_fails_run hrc]
    exact ((h.troubled key).issued hfor
      (.inr (Issued.isFailure_of_failed (by rintro _ ⟨⟩) hrc))).dropped hkey

/-- **`connect_tb_server`** opens a session for the user mapping, and its entry is connected with
it. An error leaves the records sound. -/
theorem connectTbServer_sound {params : ConnParams} (hown : Own key (connectionString params)) :
    Proc.Triple (fun w => SessionsSound Own S w ∧ unconnectedFrame key w.conn w.keys)
      (connectTbServer env key params) (fun _ w => SessionsSound Own S w ∧ w.Live key)
      fun _ => SessionsSound Own S := by
  have hattr : Proc.Triple (fun w => SessionsSound Own S w ∧ unconnectedFrame key w.conn w.keys)
      (tbSqlSetEnvAttr env key SQL_ATTR_ODBC_VERSION SQL_OV_ODBC3)
      (fun _ w => SessionsSound Own S w ∧ unconnectedFrame key w.conn w.keys)
      fun _ => SessionsSound Own S := by
    refine .look fun w₀ => Proc.Triple.strengthen_pre (tbCall_sound rfl) fun w h => ⟨h, ?_⟩
    exact ⟨h.2.1, by rintro _ _ ⟨⟩, by rintro _ ⟨⟩⟩
  have hneEnv : HandleType.env ≠ .stmt := by decide
  have hneDbc : HandleType.dbc ≠ .stmt := by decide
  refine .bind ((tbSqlAllocHandle_sound hneEnv _ (by intro _ _; rfl)).weaken (fun _ h => h)
    (fun _ _ h => h.1) fun _ _ h => h) fun henv => ?_
  refine .bind hattr fun _ => ?_
  refine .bind (tbSqlAllocHandle_sound hneDbc _ (by intro _ _; rfl)) fun hdbc => ?_
  refine .bind ((tbSqlDriverConnect_sound hown).strengthen_pre ?_) fun _ => .modify ?_
  · rintro w ⟨⟨h, hkey, -⟩, hunused, c, hc⟩
    rw [hc]
    exact ⟨⟨h, hkey⟩, hunused⟩
  · rintro w ⟨⟨h, hkey⟩, hunused, hopened, hunfailed⟩
    exact ⟨h.connected hunused hopened hunfailed, hkey, by rw [World.setConn_self]⟩

theorem lookupRules_sessions (key : ConnCacheKey) (Own : ConnCacheKey → Text → Prop)
    (S : Handle → ConnCacheKey → Prop) : LookupRules key (SessionsSound Own S) where
  setConn _ _ hf h := h.setConn fun hc => ⟨(hf.connected _).symm.trans hc, hf.hdbc _⟩
  lookup _ _ h := h.same rfl rfl rfl
  invalidated _ _ _ h := h.of_conn rfl (fun _ hk => hk) fun _ => World.invalidated_live

/-- The strings of the options of the user mapping, as `make_tb_connection` finds them. -/
def OwnsStrings (env : Environment) (Own : ConnCacheKey → Text → Prop) (key : ConnCacheKey)
    (user : UserMapping) : Prop :=
  ∀ n, Own key (connectionString (connectionParams (env.foreignServer n user.serverid) user))

theorem makeTbConnection_sound {user : UserMapping} (hown : OwnsStrings env Own key user) :
    Proc.Triple (fun w => SessionsSound Own S w ∧ unconnectedFrame key w.conn w.keys)
      (makeTbConnection pg env key user) (fun _ w => SessionsSound Own S w ∧ w.Live key)
      fun _ => SessionsSound Own S := by
  rintro w ⟨h, hkey, hno⟩
  have R := ((lookupRules_sessions key Own S).mem_keys key).disconnected
  obtain ⟨w₁, hlookup, -, -⟩ := getForeignServer_run env user.serverid w
  have hlooks : Proc.Keeps _ (getForeignServer env user.serverid) :=
    R.getForeignServer user.serverid
  have h₁ := hlooks.apply_ok ⟨⟨h, hkey⟩, hno⟩ hlookup
  have hreset := R.setConn w₁ (resetEntry env (env.foreignServer w.lookups user.serverid) user)
    ⟨fun _ => rfl, fun _ => rfl, fun _ => rfl, fun _ => rfl⟩ h₁
  have happly : Proc.Keeps _ (applyConnectionOptions pg key
      (env.foreignServer w.lookups user.serverid).options ⟨none, none, none, none, none⟩) :=
    R.applyConnectionOptions _ _
  have hoptions := happly _ hreset
  rw [makeTbConnection, Proc.bind_of_ok hlookup, modifyConn, Proc.modify_bind_run]
  rcases hrun : applyConnectionOptions pg key
      (env.foreignServer w.lookups user.serverid).options ⟨none, none, none, none, none⟩
      (w₁.setConn key (resetEntry env (env.foreignServer w.lookups user.serverid) user)) with
    ⟨params, w₂⟩ | ⟨e, w₂⟩ <;> rw [hrun] at hoptions
  · have hparams : user.options.foldl applyUserOption params =
        connectionParams (env.foreignServer w.lookups user.serverid) user := by
      rw [applyConnectionOptions_ok hrun, foldl_applyUserOption]
      simp [connectionParams]
    rw [Proc.bind_of_ok hrun, hparams]
    exact connectTbServer_sound (hown _) w₂ ⟨hoptions.1.1, hoptions.1.2, hoptions.2⟩
  · rw [Proc.bind_of_raise hrun]
    exact hoptions.1.1

theorem ensureConnection_sound {user : UserMapping} (hown : OwnsStrings env Own key user) :
    Proc.Triple (fun w => SessionsSound Own S w ∧ key ∈ w.keys) (ensureConnection pg env key user)
      (fun _ w => SessionsSound Own S w ∧ w.Live key) fun _ => SessionsSound Own S := by
  have hdisconnect : ∀ condition, Proc.Triple (fun w => SessionsSound Own S w ∧ key ∈ w.keys)
      (Proc.when condition (disconnectTbServer env key))
      (fun _ w => SessionsSound Own S w ∧ key ∈ w.keys) fun _ => SessionsSound Own S := by
    rintro (_ | _)
    · exact .pure fun _ h => h
    · exact disconnectTbServer_sound.weaken (fun _ h => h) (fun _ _ h => ⟨h.1, h.2.1⟩)
        fun _ _ h => h
  refine .look fun w₀ => .bind (hdisconnect _) fun _ => ?_
  rintro w ⟨h, hkey⟩
  rw [Proc.read_bind_run]
  rcases hconnected : (w.conn key).connected with _ | _
  · exact makeTbConnection_sound hown w ⟨h, hkey, hconnected⟩
  · exact ⟨h, hkey, hconnected⟩

theorem retryTbStatement_sound {user : UserMapping} (hown : OwnsStrings env Own key user)
    {tbStmt : TbStatement} (hconn : tbStmt.conn = key) :
    Proc.Triple (fun w => SessionsSound Own S w ∧ key ∈ w.keys)
      (retryTbStatement pg env user tbStmt)
      (fun stmt => SessionsUsing Own S liveFrame stmt.hstmt stmt.conn)
      fun _ => SessionsSound Own S := by
  subst hconn
  refine .bind disconnectTbServer_sound fun _ => .bind (makeTbConnection_sound hown) fun _ => ?_
  refine .bind (allocStatement_sound rfl) fun stmt => ?_
  rintro w ⟨hconn, h⟩
  rw [← hconn] at h
  have hrest : Proc.Triple (SessionsUsing Own S liveFrame stmt.hstmt stmt.conn) (do
      let w ← Proc.read
      beginRemoteXact env stmt w.isolationUsesXactSnapshot
      pure stmt : Fdw TbStatement)
      (fun stmt => SessionsUsing Own S liveFrame stmt.hstmt stmt.conn)
      fun _ => SessionsSound Own S :=
    .look fun _ => .bind (serves_beginRemoteXact_sound _) fun _ => .pure fun _ h => h
  exact hrest w h

/-- No entry is added or removed by the first attempt. -/
theorem tryTbStatement_keys {user : UserMapping} {tbStmt : TbStatement} (useFbQuery : Bool)
    (w : World) : (tryTbStatement pg env user tbStmt useFbQuery w).next.keys = w.keys := by
  have R := snapshotRules_touches env w tbStmt.conn
  have htouches : Proc.Keeps (Touches tbStmt.conn w)
      (tryTbStatement pg env user tbStmt useFbQuery) :=
    .bind (R.ensureConnection user) fun _ => R.openStatement rfl useFbQuery
  exact (htouches.next (Touches.refl tbStmt.conn w)).keys

/-- **`get_tb_statement`** hands out a statement in a session of the user mapping. An error leaves
the records sound as well, and no statement. -/
theorem getTbStatement_sound {user : UserMapping} (hown : OwnsStrings env Own user.umid user)
    (tbStmt : TbStatement) (useFbQuery : Bool) :
    Proc.Triple (SessionsSound Own S) (getTbStatement pg env user tbStmt useFbQuery)
      (fun stmt => SessionsUsing Own S liveFrame stmt.hstmt stmt.conn)
      fun _ => SessionsSound Own S := by
  intro w h
  have hkey : user.umid ∈ (w.entered env user.umid).keys := World.mem_entered_keys.mpr (.inl rfl)
  have hentered : SessionsSound Own S (w.entered env user.umid) := by
    refine h.of_conn World.entered_trace (fun k hk => World.mem_entered_keys.mpr (.inr hk)) ?_
    intro k hk
    obtain ⟨hlive, hsame⟩ := World.entered_live hk
    exact ⟨hlive, by rw [hsame]⟩
  have hopen : Proc.Triple (fun w => SessionsSound Own S w ∧ w.Live user.umid)
      (openStatement env { tbStmt with conn := user.umid } useFbQuery)
      (fun stmt => SessionsUsing Own S liveFrame stmt.hstmt stmt.conn)
      fun _ => SessionsSound Own S :=
    @openStatement_sound env user.umid Own S { tbStmt with conn := user.umid } rfl useFbQuery
  have htry : Proc.Triple (fun w => SessionsSound Own S w ∧ user.umid ∈ w.keys)
      (tryTbStatement pg env user { tbStmt with conn := user.umid } useFbQuery)
      (fun stmt => SessionsUsing Own S liveFrame stmt.hstmt stmt.conn)
      fun _ => SessionsSound Own S := .bind (ensureConnection_sound hown) fun _ => hopen
  have hfirst := htry _ ⟨hentered, hkey⟩
  have hkeys := @tryTbStatement_keys pg env user { tbStmt with conn := user.umid } useFbQuery
    (w.entered env user.umid)
  rw [getTbStatement_run]
  rcases hrun : tryTbStatement pg env user { tbStmt with conn := user.umid } useFbQuery
    (w.entered env user.umid) with ⟨stmt, w₁⟩ | ⟨err, w₁⟩ <;> rw [hrun] at hfirst hkeys
  · rw [Proc.onError_of_ok hrun]
    exact hfirst
  · rw [Proc.onError_of_raise hrun]
    split_ifs
    · exact retryTbStatement_sound hown rfl w₁ ⟨hfirst, hkeys ▸ hkey⟩
    · exact hfirst

/-! ## The end of a transaction -/

/-- An entry ends its transaction in its own session, which it may lose then. -/
theorem endRemoteXact_sound (completionType : CompletionType) :
    Proc.Triple (fun w => SessionsSound Own S w ∧ key ∈ w.keys)
      (endRemoteXact env key completionType)
      (fun _ => SessionsSound Own S) fun _ => SessionsSound Own S := by
  rintro w ⟨h, hkey⟩
  rw [endRemoteXact, Proc.read_bind_run]
  rcases hconnected : (w.conn key).connected with _ | _
  · exact h
  have hend : Proc.Triple (fun w => SessionsSound Own S w ∧ liveFrame key w.conn w.keys)
      (tbSqlEndTran env key completionType)
      (fun _ w => SessionsSound Own S w ∧ key ∈ w.keys) fun _ => SessionsSound Own S := by
    rintro w₁ ⟨h₁, hlive⟩
    have hfor : (SqlCall.endTran (w₁.conn key).hdbc completionType).IsFor key w₁ := by
      refine SqlCall.isFor_of_live h₁.toSessionsOwned hlive (by rintro _ ⟨⟩; rfl) ?_
      -- nothing has failed in the session of an entry that is connected
      rintro _ ⟨⟩
      exact h₁.unfailed key hlive
    rw [tbSqlEndTran, Proc.read_bind_run]
    refine Proc.Triple.bind (tbCall_sound rfl) (fun _ => .modify fun w₂ h₂ => ?_) w₁
      ⟨⟨h₁, hlive⟩, hfor⟩
    exact ⟨h₂.1.setConn fun hc => ⟨hc, rfl⟩, h₂.2.1⟩
  have hrest : Proc.Triple (fun w => SessionsSound Own S w ∧ key ∈ w.keys)
      (do
        let w ← Proc.read
        Proc.when ((w.conn key).invalidated || !(w.conn key).keepConnections)
          (disconnectTbServer env key) : Fdw Unit)
      (fun _ => SessionsSound Own S) fun _ => SessionsSound Own S := by
    rintro w₁ ⟨h₁, hkey₁⟩
    rw [Proc.read_bind_run]
    cases (w₁.conn key).invalidated || !(w₁.conn key).keepConnections
    · exact h₁
    · exact disconnectTbServer_sound.weaken (fun _ h => h) (fun _ _ h => h.1) (fun _ _ h => h) w₁
        ⟨h₁, hkey₁⟩
  exact Proc.Triple.bind hend (fun _ => hrest) w ⟨h, hkey, hconnected⟩

theorem xactCallbackEntry_sound (event : XactEvent) :
    Proc.Triple (fun w => SessionsSound Own S w ∧ key ∈ w.keys) (xactCallbackEntry env event key)
      (fun _ => SessionsSound Own S) fun _ => SessionsSound Own S := by
  have hpure : Proc.Triple (fun w => SessionsSound Own S w ∧ key ∈ w.keys) (pure () : Fdw Unit)
      (fun _ => SessionsSound Own S) fun _ => SessionsSound Own S := .pure fun _ h => h.1
  refine .look fun w₀ => ?_
  cases (w₀.conn key).beginRemoteXact
  · exact hpure
  cases event with
  | preCommit | parallelPreCommit => exact endRemoteXact_sound .commit
  | prePrepare | commit | parallelCommit | prepare => exact hpure
  | abort | parallelAbort =>
    cases w₀.inErrorRecursionTrouble
    · exact endRemoteXact_sound .rollback
    · refine .modify fun w h => h.1.setConn fun hc => ?_
      cases hc

/-- **The callback of the transaction** goes through the entries that it finds, and each step is
one on the session of its entry. -/
theorem tbfdwXactCallback_sound (event : XactEvent) :
    Proc.Keeps (SessionsSound Own S) (tbfdwXactCallback env event) := by
  have hloop : ∀ keys, Proc.Triple (fun w => SessionsSound Own S w ∧ w.keys = keys)
      (Proc.forEach keys (xactCallbackEntry env event))
      (fun _ w => SessionsSound Own S w ∧ w.keys = keys) fun _ => SessionsSound Own S := by
    refine fun keys => .forEach fun k hk => ?_
    rintro w ⟨h, rfl⟩
    have hsound := @xactCallbackEntry_sound env k Own S event w ⟨h, hk⟩
    have hsettled := @xactCallbackEntry_settled env w k event w (Settled.refl w)
    rcases hrun : xactCallbackEntry env event k w with ⟨u, w'⟩ | ⟨e, w'⟩ <;>
      rw [hrun] at hsound hsettled
    · exact ⟨hsound, hsettled.keys⟩
    · exact hsound
  intro w h
  rw [tbfdwXactCallback, Proc.read_bind_run]
  cases w.xactGotConnection
  · exact h
  have hall : Proc.Triple (fun w₁ => SessionsSound Own S w₁ ∧ w₁.keys = w.keys)
      (do
        setSleepOnSigOn
        Proc.forEach w.keys (xactCallbackEntry env event)
        Proc.modify fun w => { w with xactGotConnection := false }
        setSleepOnSigOff : Fdw Unit)
      (fun _ => SessionsSound Own S) fun _ => SessionsSound Own S := by
    have hset : ∀ {f : World → World}, (∀ w, (f w).trace = w.trace ∧ (f w).conn = w.conn ∧
        (f w).keys = w.keys) → Proc.Triple (fun w₁ => SessionsSound Own S w₁ ∧ w₁.keys = w.keys)
          (Proc.modify f : Fdw Unit) (fun _ w₁ => SessionsSound Own S w₁ ∧ w₁.keys = w.keys)
          fun _ => SessionsSound Own S := fun hf => .modify fun w₁ h₁ =>
        ⟨h₁.1.same (hf w₁).1 (hf w₁).2.1 (hf w₁).2.2, (hf w₁).2.2.trans h₁.2⟩
    refine .bind (hset fun _ => ⟨rfl, rfl, rfl⟩) fun _ => .bind (hloop w.keys) fun _ => ?_
    refine .bind (hset fun _ => ⟨rfl, rfl, rfl⟩) fun _ => ?_
    exact .modify fun w₁ h₁ => h₁.1.same rfl rfl rfl
  exact hall w ⟨h, rfl⟩

/-! ## Runs -/

/-- The scan or the modification works on the statement of the entry. -/
def Backend.Uses (b : Backend) (hstmt : Handle) (key : ConnCacheKey) : Prop :=
  (∃ i fsstate, b.scan i = some fsstate ∧ fsstate.tbStmt.hstmt = hstmt ∧
    fsstate.tbStmt.conn = key) ∨
  ∃ i fmstate, b.modify i = some fmstate ∧ fmstate.tbStmt.hstmt = hstmt ∧
    fmstate.tbStmt.conn = key

variable {b : Backend} {i : Nat}

theorem Backend.uses_scan {fsstate : TbFdwScanState} (hscan : b.scan i = some fsstate) :
    b.Uses fsstate.tbStmt.hstmt fsstate.tbStmt.conn :=
  .inl ⟨i, fsstate, hscan, rfl, rfl⟩

theorem Backend.uses_modify {fmstate : TbFdwExecState} (hmodify : b.modify i = some fmstate) :
    b.Uses fmstate.tbStmt.hstmt fmstate.tbStmt.conn :=
  .inr ⟨i, fmstate, hmodify, rfl, rfl⟩

/-- A scan goes on with its statement, or ends. -/
theorem Backend.uses_of_scan_set {fsstate : TbFdwScanState} (hscan : b.scan i = some fsstate)
    {x : Option TbFdwScanState} (hx : ∀ fsstate', x = some fsstate' →
      fsstate'.tbStmt.hstmt = fsstate.tbStmt.hstmt ∧ fsstate'.tbStmt.conn = fsstate.tbStmt.conn)
    {h : Handle} {k : ConnCacheKey}
    (huses : ({ b with scans := b.scans.set i x } : Backend).Uses h k) : b.Uses h k := by
  rcases huses with ⟨j, fsstate', hj, rfl, rfl⟩ | hmodify
  · rw [Backend.scan_set hscan] at hj
    split_ifs at hj
    · obtain ⟨hhstmt, hconn⟩ := hx fsstate' hj
      rw [hhstmt, hconn]
      exact Backend.uses_scan hscan
    · exact Backend.uses_scan hj
  · exact .inr hmodify

theorem Backend.uses_of_scan_append {fsstate : TbFdwScanState} {h : Handle} {k : ConnCacheKey}
    (huses : ({ b with scans := b.scans ++ [some fsstate] } : Backend).Uses h k) :
    Along b.Uses fsstate.tbStmt.hstmt fsstate.tbStmt.conn h k := by
  rcases huses with ⟨j, fsstate', hj, rfl, rfl⟩ | hmodify
  · rw [Backend.scan_append] at hj
    split_ifs at hj
    · cases hj
      exact .inr ⟨rfl, rfl⟩
    · exact .inl (Backend.uses_scan hj)
  · exact .inl (.inr hmodify)

/-- A modification goes on with its statement, or ends. -/
theorem Backend.uses_of_modify_set {fmstate : TbFdwExecState}
    (hmodify : b.modify i = some fmstate) {x : Option TbFdwExecState}
    (hx : ∀ fmstate', x = some fmstate' →
      fmstate'.tbStmt.hstmt = fmstate.tbStmt.hstmt ∧ fmstate'.tbStmt.conn = fmstate.tbStmt.conn)
    {h : Handle} {k : ConnCacheKey}
    (huses : ({ b with modifies := b.modifies.set i x } : Backend).Uses h k) : b.Uses h k := by
  rcases huses with hscan | ⟨j, fmstate', hj, rfl, rfl⟩
  · exact .inl hscan
  · rw [Backend.modify_set hmodify] at hj
    split_ifs at hj
    · obtain ⟨hhstmt, hconn⟩ := hx fmstate' hj
      rw [hhstmt, hconn]
      exact Backend.uses_modify hmodify
    · exact Backend.uses_modify hj

theorem Backend.uses_of_modify_append {fmstate : TbFdwExecState} {h : Handle} {k : ConnCacheKey}
    (huses : ({ b with modifies := b.modifies ++ [some fmstate] } : Backend).Uses h k) :
    Along b.Uses fmstate.tbStmt.hstmt fmstate.tbStmt.conn h k := by
  rcases huses with hscan | ⟨j, fmstate', hj, rfl, rfl⟩
  · exact .inl (.inl hscan)
  · rw [Backend.modify_append] at hj
    split_ifs at hj
    · cases hj
      exact .inr ⟨rfl, rfl⟩
    · exact .inl (Backend.uses_modify hj)

/-- The user mapping that a call of the backend is for. -/
def BackendOp.user? : BackendOp → Option UserMapping
  | .beginScan _ user _ | .beginModify _ user _ => some user
  | _ => none

/-- What holds of the entry is of no interest any more. -/
theorem SessionsUsing.forget (h : SessionsUsing Own S frame hstmt key w) :
    SessionsUsing Own S (fun _ _ _ => True) hstmt key w :=
  ⟨h.1, trivial⟩

theorem SessionsUsing.of_owner (h : SessionsSound Own S w) (hS : S hstmt key) :
    SessionsUsing Own S (fun _ _ _ => True) hstmt key w := by
  refine ⟨h.mono ?_, trivial⟩
  rintro hstmt' k (hS' | ⟨rfl, rfl⟩)
  · exact hS'
  · exact hS

theorem SessionsSound.sleep (h : SessionsSound Own S w) (useSleepOnSig : Bool) :
    SessionsSound Own S { w with useSleepOnSig } :=
  h.same rfl rfl rfl

theorem SessionsUsing.sleep (h : SessionsUsing Own S frame hstmt key w) (useSleepOnSig : Bool) :
    SessionsUsing Own S frame hstmt key { w with useSleepOnSig } :=
  ⟨h.1.sleep useSleepOnSig, h.2⟩

/-- A statement is dropped: it is used one last time. -/
theorem endStatement_sound {tbStmt : TbStatement} (hS : S tbStmt.hstmt tbStmt.conn) :
    Proc.Keeps (SessionsSound Own S) (do
      setSleepOnSigOn
      tbSqlFreeStmt env tbStmt .drop
      setSleepOnSigOff : Fdw Unit) := by
  have hdrop : Proc.Keeps (SessionsSound Own S) (tbSqlFreeStmt env tbStmt .drop) := by
    intro w h
    have hfor : (SqlCall.freeStmt tbStmt.hstmt .drop).IsFor tbStmt.conn w :=
      (SessionsUsing.of_owner h hS).isFor rfl (by rintro _ ⟨⟩)
    exact (@tbCall_sound env tbStmt.conn Own S (fun _ _ _ => True) _ rfl).weaken (fun _ h => h)
      (fun _ _ h => h.1) (fun _ _ h => h) w ⟨⟨h, trivial⟩, hfor⟩
  refine .bind (.modify fun w h => h.sleep true) fun _ => .bind hdrop fun _ => ?_
  exact .modify fun w h => h.sleep false

theorem beginForeignScan_sound {user : UserMapping} (hown : OwnsStrings env Own user.umid user)
    (rel : Relation) (fsplan : ForeignScan) :
    Proc.Triple (SessionsSound Own S) (tiberoBeginForeignScan pg env rel user false fsplan)
      (fun r w => ∃ fsstate, r = some fsstate ∧
        SessionsSound Own (Along S fsstate.tbStmt.hstmt fsstate.tbStmt.conn) w)
      fun _ => SessionsSound Own S := by
  have hget : Proc.Triple (SessionsSound Own S)
      (getTbStatement pg env user TbStatement.zeroed fsplan.useFbQuery)
      (fun stmt => SessionsUsing Own S (fun _ _ _ => True) stmt.hstmt stmt.conn)
      fun _ => SessionsSound Own S :=
    (getTbStatement_sound hown _ _).weaken (fun _ h => h) (fun _ _ h => h.forget) fun _ _ h => h
  have hon : ∀ w, SessionsSound Own S w → SessionsSound Own S { w with useSleepOnSig := true } :=
    fun _ h => h.sleep true
  have hoff : ∀ hstmt key w, SessionsUsing Own S (fun _ _ _ => True) hstmt key w →
      SessionsUsing Own S (fun _ _ _ => True) hstmt key { w with useSleepOnSig := false } :=
    fun _ _ _ h => h.sleep false
  have hbegin := (checkedRules_sessions env Own S fun _ _ _ => True).beginForeignScan hon hoff hget
    rel
  refine hbegin.weaken (fun _ h => h) ?_ fun _ _ h => h
  rintro r w ⟨fsstate, rfl, h⟩
  exact ⟨fsstate, rfl, h.1⟩

theorem beginForeignModify_sound {user : UserMapping} (hown : OwnsStrings env Own user.umid user)
    (rel : Relation) (fdwPrivate : FdwModifyPrivate) :
    Proc.Triple (SessionsSound Own S) (tiberoBeginForeignModify pg env rel user false fdwPrivate)
      (fun r w => ∃ fmstate, r = some fmstate ∧
        SessionsSound Own (Along S fmstate.tbStmt.hstmt fmstate.tbStmt.conn) w)
      fun _ => SessionsSound Own S := by
  have hlookup : Proc.Keeps (SessionsSound Own S) (getForeignServer env user.serverid) :=
    (lookupRules_sessions user.umid Own S).getForeignServer user.serverid
  rw [tiberoBeginForeignModify, if_neg Bool.false_ne_true]
  refine .bind (.modify fun w h => h.sleep true) fun _ => .bind hlookup fun _ => ?_
  refine .bind (getTbStatement_sound hown _ _) fun tbStmt => ?_
  have hoff : Proc.Triple (SessionsUsing Own S liveFrame tbStmt.hstmt tbStmt.conn) setSleepOnSigOff
      (fun _ => SessionsUsing Own S liveFrame tbStmt.hstmt tbStmt.conn)
      fun _ => SessionsSound Own S := .modify fun w h => h.sleep false
  refine .bind ((checkedRules_sessions env Own S liveFrame).serves_call rfl) fun _ => ?_
  exact .bind hoff fun _ => .pure fun w h => ⟨_, rfl, h.1⟩

/-- An insert goes on with the same statement. -/
theorem insert_tbStmt {fmstate fmstate' : TbFdwExecState} {slot : TupleTableSlot}
    {accesses : List (InsertArray × Nat)}
    (h : tiberoExecForeignInsert pg env fmstate slot w = .ok (fmstate', accesses) w') :
    fmstate'.tbStmt.hstmt = fmstate.tbStmt.hstmt ∧ fmstate'.tbStmt.conn = fmstate.tbStmt.conn := by
  rw [tiberoExecForeignInsert, setSleepOnSigOn, Proc.modify_bind_run] at h
  obtain ⟨_, w₁, -, h⟩ := Proc.bind_eq_ok.mp h
  obtain ⟨tbStmt, w₂, hexecute, h⟩ := Proc.bind_eq_ok.mp h
  cases h
  rw [TiberoFdw.executeUnlessExecuted] at hexecute
  split_ifs at hexecute
  · cases hexecute
    exact ⟨rfl, rfl⟩
  · rw [(tbSqlExecute_ok hexecute).2.1]
    exact ⟨rfl, rfl⟩

/-- One call of the backend, on both exits. -/
theorem SessionsSound.run (op : BackendOp)
    (hown : ∀ user, op.user? = some user → OwnsStrings env Own user.umid user) :
    Proc.Triple (SessionsSound Own b.Uses) (op.run pg env b)
      (fun b' => SessionsSound Own b'.Uses) fun _ => SessionsSound Own b.Uses := by
  have R := checkedRules_sessions env Own b.Uses fun _ _ _ => True
  have hset : ∀ {f : World → World} {b' : Backend}, (∀ w, (f w).trace = w.trace ∧
      (f w).conn = w.conn ∧ (f w).keys = w.keys) → b'.Uses = b.Uses →
      Proc.Triple (SessionsSound Own b.Uses) (Proc.modify f >>= fun _ => pure b' : Fdw Backend)
        (fun b' => SessionsSound Own b'.Uses) fun _ => SessionsSound Own b.Uses := by
    intro f b' hf hb'
    refine Proc.Triple.bind (.modify fun w h => ?_) fun _ => .pure fun w h => h
    exact hb' ▸ h.same (hf w).1 (hf w).2.1 (hf w).2.2
  cases op with
  | startTransaction isolationUsesXactSnapshot => exact hset (fun _ => ⟨rfl, rfl, rfl⟩) rfl
  | startStatement timestamp =>
    exact .look fun w => hset (fun _ => ⟨rfl, rfl, rfl⟩) rfl
  | beginScan rel user fsplan =>
    refine .bind (beginForeignScan_sound (hown user rfl) rel fsplan) fun r => .pure ?_
    rintro w ⟨fsstate, rfl, h⟩
    exact h.mono fun _ _ => Backend.uses_of_scan_append
  | iterate i =>
    rw [BackendOp.run]
    rcases hscan : b.scan i with _ | fsstate
    · exact .pure fun w h => h
    have hiterate : Proc.Triple (SessionsSound Own b.Uses)
        (tiberoIterateForeignScan pg env fsstate) (fun _ => SessionsSound Own b.Uses)
        fun _ => SessionsSound Own b.Uses :=
      R.iterateForeignScan fsstate
        (fun w h => (SessionsUsing.of_owner h (Backend.uses_scan hscan)).sleep true)
        fun w h => (h.sleep false).1.along
    refine .bind (hiterate.returned (p := fun r => r.1.tbStmt =
      { fsstate.tbStmt with queryExecuted := true }) fun r w w' hrun => iterate_tbStmt hrun)
      fun r => .pure ?_
    rintro w ⟨hstmt, h⟩
    refine h.mono fun _ _ => Backend.uses_of_scan_set hscan ?_
    rintro fsstate' ⟨⟩
    rw [hstmt]
    exact ⟨rfl, rfl⟩
  | reScan i =>
    rw [BackendOp.run]
    rcases hscan : b.scan i with _ | fsstate
    · exact .pure fun w h => h
    intro w h
    refine (h.sleep false).mono fun _ _ => Backend.uses_of_scan_set hscan ?_
    rintro fsstate' ⟨⟩
    exact ⟨rfl, rfl⟩
  | endScan i =>
    rw [BackendOp.run]
    rcases hscan : b.scan i with _ | fsstate
    · exact .pure fun w h => h
    refine .bind (endStatement_sound (Backend.uses_scan hscan)) fun _ => .pure fun w h => ?_
    exact h.mono fun _ _ => Backend.uses_of_scan_set hscan (by rintro _ ⟨⟩)
  | beginModify rel user fdwPrivate =>
    refine .bind (beginForeignModify_sound (hown user rfl) rel fdwPrivate) fun r => .pure ?_
    rintro w ⟨fmstate, rfl, h⟩
    exact h.mono fun _ _ => Backend.uses_of_modify_append
  | insert i slot =>
    rw [BackendOp.run]
    rcases hmodify : b.modify i with _ | fmstate
    · exact .pure fun w h => h
    have hinsert : Proc.Triple (SessionsSound Own b.Uses)
        (tiberoExecForeignInsert pg env fmstate slot) (fun _ => SessionsSound Own b.Uses)
        fun _ => SessionsSound Own b.Uses :=
      R.execForeignInsert fmstate slot
        (fun w h => (SessionsUsing.of_owner h (Backend.uses_modify hmodify)).sleep true)
        fun w h => (h.sleep false).1.along
    refine .bind (hinsert.returned fun r w w' hrun => insert_tbStmt hrun) fun r => .pure ?_
    rintro w ⟨hstmt, h⟩
    refine h.mono fun _ _ => Backend.uses_of_modify_set hmodify ?_
    rintro fmstate' ⟨⟩
    exact hstmt
  | endModify i =>
    rw [BackendOp.run]
    rcases hmodify : b.modify i with _ | fmstate
    · exact .pure fun w h => h
    refine .bind (endStatement_sound (Backend.uses_modify hmodify)) fun _ => .pure fun w h => ?_
    exact h.mono fun _ _ => Backend.uses_of_modify_set hmodify (by rintro _ ⟨⟩)
  | xactEvent event inErrorRecursionTrouble =>
    refine .bind (Q := fun _ => SessionsSound Own b.Uses)
      (.modify fun w h => h.same rfl rfl rfl) fun _ => ?_
    exact .bind (tbfdwXactCallback_sound event) fun _ => .pure fun w h => h
  | subxactEvent =>
    have hsubxact : Proc.Keeps (SessionsSound Own b.Uses) tbfdwSubxactCallback :=
      .read_bind fun _ => .when (.bind (.modify fun w h => h.sleep true) fun _ =>
        .modify fun w h => h.sleep false)
    exact .bind hsubxact fun _ => .pure fun w h => h
  | invalidate cacheid hashvalue =>
    have hinvalidate : Proc.Keeps (SessionsSound Own b.Uses)
        (tbfdwInvalCallback cacheid hashvalue) := fun w h =>
      ((lookupRules_sessions 0 Own b.Uses).invalidated w cacheid hashvalue h)
    exact .bind hinvalidate fun _ => .pure fun w h => h

/-- A connection string of the options of the user mapping: a call of the run was for a user
mapping with that OID, and its server was found once with the options. -/
def OwnString (env : Environment) (ops : List BackendOp) (key : ConnCacheKey) (connStr : Text) :
    Prop :=
  ∃ op ∈ ops, ∃ user, op.user? = some user ∧ user.umid = key ∧ ∃ n,
    connStr = connectionString (connectionParams (env.foreignServer n user.serverid) user)

/-- **Every run** from an empty cache leaves sound records. The results on sessions read what they
need from one of its fields. -/
theorem SessionsSound.of_runBackend {ops : List BackendOp} {w₀ : World} (hkeys : w₀.keys = [])
    (htrace : w₀.trace = []) {b' : Backend}
    (hrun : runBackend pg env ops Backend.start w₀ = .ok b' w) :
    SessionsSound (OwnString env ops) b'.Uses w := by
  have hnone : ∀ k, ¬w₀.Live k := by
    rintro k ⟨hk, -⟩
    rw [hkeys] at hk
    cases hk
  have hunused : ∀ h k, ¬Backend.start.Uses h k := by
    rintro h k (⟨i, fsstate, ⟨⟩, -⟩ | ⟨i, fmstate, ⟨⟩, -⟩)
  have hstart : SessionsSound (OwnString env ops) Backend.start.Uses w₀ := by
    refine ⟨⟨?_, fun k hk => (hnone k hk).elim, fun k _ hk => (hnone k hk).elim,
      fun h k hS => (hunused h k hS).elim, fun h k _ hS => (hunused h k hS).elim,
      fun h k _ _ hS => (hunused h k hS).elim⟩, fun k hk => (hnone k hk).elim⟩
    rw [htrace]
    rintro n hdbc rc ⟨⟩
  have hmeet : Proc.StepsMeet (fun op _ _ => op ∈ ops) (BackendOp.step pg env) ops Backend.start
      w₀ :=
    .of_forall (fun _ hop => hop) _ _
  refine Proc.fold_ok (I := fun b w => SessionsSound (OwnString env ops) b.Uses w) ?_ hmeet hstart
    hrun
  intro op b w b' w' hop h hstep
  have hown : ∀ user, op.user? = some user →
      OwnsStrings env (OwnString env ops) user.umid user := fun user huser n =>
    ⟨op, hop, user, huser, rfl, n, rfl⟩
  rcases BackendOp.step_cases hstep with hok | ⟨e, hraise, rfl⟩
  · exact (SessionsSound.run op hown).apply_ok h hok
  · exact (SessionsSound.run op hown).apply_raise h hraise

/-- A run of a backend goes on to its end. -/
theorem runBackend_returns (pg : Postgres) (env : Environment) (ops : List BackendOp) (b : Backend)
    (w : World) : ∃ b' w', runBackend pg env ops b w = .ok b' w' := by
  induction ops generalizing b w with
  | nil => exact ⟨b, w, rfl⟩
  | cons op rest ih =>
    obtain ⟨b₁, w₁, hstep⟩ := @BackendOp.step_returns pg env op b w
    obtain ⟨b₂, w₂, hrest⟩ := ih b₁ w₁
    exact ⟨b₂, w₂, (Proc.bind_of_ok hstep).trans hrest⟩

/-- Each user mapping has sessions of its own, which were opened with its own options. -/
structure UsersApart (env : Environment) (ops : List BackendOp) (b : Backend) (w : World) :
    Prop where
  uses : ∀ hstmt key, b.Uses hstmt key →
    w.OpenedFor (OwnString env ops) key (w.record.session hstmt)
  live : ∀ key, w.Live key → w.OpenedFor (OwnString env ops) key (w.conn key).hdbc
  apart : ∀ hstmt key hstmt' key', b.Uses hstmt key → b.Uses hstmt' key' → key ≠ key' →
    w.record.session hstmt ≠ w.record.session hstmt'
  apartLive : ∀ hstmt key key', b.Uses hstmt key → w.Live key' → key ≠ key' →
    w.record.session hstmt ≠ (w.conn key').hdbc
  liveApart : ∀ key key', w.Live key → w.Live key' → key ≠ key' →
    (w.conn key).hdbc ≠ (w.conn key').hdbc

/-- **Whose session it is**: in every run, whatever fails or is invalidated in it, a scan or
a modification works in a session that was opened with the options of its own user mapping,
and no session is used for two user mappings. So no user reads or writes with the rights of
another. -/
theorem usersApart_of_run {ops : List BackendOp} {w₀ : World} (hkeys : w₀.keys = [])
    (htrace : w₀.trace = []) {b' : Backend}
    (hrun : runBackend pg env ops Backend.start w₀ = .ok b' w) : UsersApart env ops b' w := by
  have h : SessionsSound (OwnString env ops) b'.Uses w := .of_runBackend hkeys htrace hrun
  refine ⟨fun hstmt key huses => (h.stmts hstmt key huses).2.2.2, fun key hk => (h.live key hk).2,
    fun hstmt key hstmt' key' huses huses' hne heq => hne ?_,
    fun hstmt key key' huses hk' hne heq => hne ?_, fun key key' hk hk' hne heq => hne ?_⟩
  · exact h.shares hstmt key hstmt' key' huses huses' heq
  · exact (h.uses hstmt key key' huses hk' heq).symm
  · exact h.distinct key key' hk hk' heq

/-- **A transaction in which a call has failed is never committed**, in every run: the calls
that fail may be any, and the transaction may go on after their errors are caught. The module
keeps no record of failures; it is the disconnection by every report that makes it so. -/
theorem commitsUnfailed_of_run {ops : List BackendOp} {w₀ : World} (hkeys : w₀.keys = [])
    (htrace : w₀.trace = []) :
    CommitsUnfailed (runBackend pg env ops Backend.start w₀).next.trace := by
  obtain ⟨b', w', hrun⟩ := runBackend_returns pg env ops Backend.start w₀
  have h : SessionsSound (OwnString env ops) b'.Uses w' := .of_runBackend hkeys htrace hrun
  rw [hrun]
  exact h.commits

end

/-- Two user mappings of one server scan a table. -/
def twoMappingsScan (ops : List BackendOp) : List BackendOp :=
  .beginScan textTable ⟨1, 7, [⟨"username", "u".toList⟩]⟩ twoAtATimeScan ::
    .beginScan textTable ⟨2, 7, [⟨"username", "v".toList⟩]⟩ twoAtATimeScan :: ops

/-- Both go on in their sessions. -/
theorem twoMappings_apart :
    ∃ b w, runBackend .small (.delivering twoRows) (twoMappingsScan [.iterate 0, .iterate 1])
        Backend.start World.started = .ok b w ∧
      (b.scan 0).isSome = true ∧ (b.scan 1).isSome = true ∧
      UsersApart (.delivering twoRows) (twoMappingsScan [.iterate 0, .iterate 1]) b w := by
  obtain ⟨b, w, hrun, hscans⟩ : ∃ b w, runBackend .small (.delivering twoRows)
      (twoMappingsScan [.iterate 0, .iterate 1]) Backend.start World.started = .ok b w ∧
      ((b.scan 0).isSome && (b.scan 1).isSome) = true :=
    Outcome.exists_of_okAnd (by decide +kernel)
  rw [Bool.and_eq_true] at hscans
  exact ⟨b, w, hrun, hscans.1, hscans.2, usersApart_of_run rfl rfl hrun⟩

/-- The driver fails when the first of two scans is executed. -/
def Environment.failsAtExecute : Environment :=
  { Environment.delivering twoRows with rc := fun n => if n = 26 then -1 else SQL_SUCCESS }

/-- The two scans and the end of their transaction. -/
def twoMappingsCommit : List BackendOp :=
  twoMappingsScan [.iterate 0, .iterate 1, .xactEvent .preCommit false]

/-- Only the session of the second scan is committed. -/
theorem failedScan_commitsUnfailed :
    ((runBackend .small .failsAtExecute twoMappingsCommit Backend.start
        World.started).next.trace.map (·.call)).filter
          (fun c => c = .endTran 3 .commit ∨ c = .endTran 16 .commit) = [.endTran 16 .commit] ∧
      CommitsUnfailed (runBackend .small .failsAtExecute twoMappingsCommit Backend.start
        World.started).next.trace :=
  ⟨by decide +kernel, commitsUnfailed_of_run rfl rfl⟩

end TiberoFdw
