import TiberoFdw.Handles
import TiberoFdw.SharedSnapshot

/-!
# No handle is used after it was freed

The functions of `connection.c` and the callbacks use handles that are there, under two
conditions: `disconnect_tb_server` does not fail after it has freed the connection, and
a callback works on a statement of the connection that its entry still has. Each
statement that a scan or a modification holds is its own (`HandlesOwned`), so that
ending one leaves the others.
-/

namespace TiberoFdw

section

variable {pg : Postgres} {env : Environment} {w w' : World} {key : ConnCacheKey}
  {S : Handle → Prop} {hstmt : Handle}

/-! ## Working on a statement -/

/-- What holds while a callback works on a statement. -/
structure Working (S : Handle → Prop) (hstmt : Handle) (key : ConnCacheKey) (w : World) :
    Prop where
  kept : HandlesKept S w
  usable : w.handles.usable hstmt = true
  le : hstmt ≤ w.trace.length
  live : w.Live key

theorem SqlCall.onLive_of_hstmt {call : SqlCall} (hcall : call.hstmt? = some hstmt) (hs : Handles) :
    call.onLive hs = hs.usable hstmt := by
  cases call with
  | freeStmt h option =>
    cases option with
    | close =>
      cases hcall
      rfl
    | drop => cases hcall
  | execDirect | prepare | execute | fetch | bindCol | bindParameter | setStmtAttr | numResultCols
      | describeCol =>
    cases hcall
    rfl
  | _ => cases hcall

theorem SqlCall.keepsHandles_of_hstmt {call : SqlCall} (hcall : call.hstmt? = some hstmt) :
    call.keepsHandles = true := by
  cases call with
  | freeStmt h option =>
    cases option with
    | close => rfl
    | drop => cases hcall
  | allocHandle | freeHandle | disconnect => cases hcall
  | _ => rfl

theorem HandlesKept.mono {S' : Handle → Prop} (h : HandlesKept S w) (hS : ∀ h, S' h → S h) :
    HandlesKept S' w :=
  ⟨h.used, h.env, h.dbc, h.separate, h.session, h.ended, fun hstmt hS' =>
    h.stmts hstmt (hS hstmt hS')⟩

theorem Working.issued (h : Working S hstmt key w) {call : SqlCall}
    (hlive : call.onLive w.handles = true) (hcall : call.keepsHandles = true) (rc : SqlReturn) :
    Working S hstmt key (w.issued env call rc) := by
  refine ⟨h.kept.issued hlive fun _ => hcall, ?_, ?_, h.live⟩
  · rw [World.issued_handles_same fun _ => hcall]
    exact h.usable
  · rw [World.issued_length]
    exact Nat.le_succ_of_le h.le

/-- Fields that say nothing about the connection. -/
theorem Working.setConn (h : Working S hstmt key w) {f : ConnCacheEntry → ConnCacheEntry}
    (hf : ∀ c, (f c).henv = c.henv ∧ (f c).hdbc = c.hdbc ∧ (f c).connected = c.connected) :
    Working S hstmt key (w.setConn key f) := by
  have hconn : ∀ k, ((w.setConn key f).conn k).henv = (w.conn k).henv ∧
      ((w.setConn key f).conn k).hdbc = (w.conn k).hdbc ∧
      ((w.setConn key f).conn k).connected = (w.conn k).connected := by
    intro k
    by_cases hk : k = key
    · subst hk
      rw [World.setConn_self]
      exact hf _
    · rw [World.setConn_of_ne hk]
      exact ⟨rfl, rfl, rfl⟩
  refine ⟨h.kept.of_conn rfl fun k hk => ?_, h.usable, h.le, h.live.1, ?_⟩
  · obtain ⟨henv, hdbc, hconnected⟩ := hconn k
    exact ⟨⟨hk.1, hconnected.symm.trans hk.2⟩, henv, hdbc⟩
  · exact (hconn key).2.2.trans h.live.2

theorem HandlesKept.reported (h : HandlesKept S w) (hkey : key ∈ w.keys) :
    ∃ w', dropConnection env key w = .ok () w' ∧ HandlesKept S w' :=
  ⟨_, dropConnection_eq, by simpa [dropConnection_eq] using @HandlesKept.report env _ _ _ h hkey⟩

theorem statementRules_handles (env : Environment) (S : Handle → Prop) :
    StatementRules env (HandlesKept S) (Working S) where
  inv _ _ _ h := h.kept
  sleepUsing _ _ _ _ h := ⟨h.kept.of_conn rfl fun _ hk => ⟨hk, rfl, rfl⟩, h.usable, h.le, h.live⟩
  issued hstmt _ w call rc hcall h :=
    h.issued ((SqlCall.onLive_of_hstmt hcall _).trans h.usable)
      (SqlCall.keepsHandles_of_hstmt hcall)
      rc
  report hstmt key w h := by
    obtain ⟨w', hdrop, hkept⟩ := @HandlesKept.reported env _ _ _ h.kept h.live.1
    rw [hdrop]
    exact hkept

/-! ## Opening a statement -/

theorem serves_modifyConn {f : ConnCacheEntry → ConnCacheEntry}
    (hf : ∀ c, (f c).henv = c.henv ∧ (f c).hdbc = c.hdbc ∧ (f c).connected = c.connected) :
    Serves (HandlesKept S) (Working S) hstmt key (modifyConn key f) :=
  .modify fun _ h => h.setConn hf

theorem serves_beginRemoteXact {tbStmt : TbStatement} (isSerializable : Bool) :
    Serves (HandlesKept S) (Working S) tbStmt.hstmt tbStmt.conn
      (beginRemoteXact env tbStmt isSerializable) := by
  have hattr : Serves (HandlesKept S) (Working S) tbStmt.hstmt tbStmt.conn
      (tbSqlSetConnectAttr env tbStmt.conn SQL_ATTR_AUTOCOMMIT SQL_AUTOCOMMIT_OFF) := by
    intro w h
    have hdbc := (h.kept.dbc _ h.live).1
    have hissued := @Working.issued env _ _ _ _ h (.setConnectAttr (w.conn tbStmt.conn).hdbc
      SQL_ATTR_AUTOCOMMIT SQL_AUTOCOMMIT_OFF) hdbc rfl (w.nextRc env)
    rw [tbSqlSetConnectAttr, Proc.read_bind_run, tbCall, Proc.bind_of_ok (issue_run _)]
    exact (statementRules_handles env S).serves_checkReturn _ _ _ hissued
  refine hattr.bind fun _ => ((statementRules_handles env S).serves_call rfl).bind fun _ => ?_
  exact serves_modifyConn fun _ => ⟨rfl, rfl, rfl⟩

theorem serves_fetchTsn (tbStmt : TbStatement) :
    Serves (HandlesKept S) (Working S) tbStmt.hstmt tbStmt.conn (fetchTsn env tbStmt) := by
  have R := statementRules_handles env S
  have hstore : ∀ batch, Serves (HandlesKept S) (Working S) tbStmt.hstmt tbStmt.conn
      (storeTsn tbStmt.conn batch) := by
    intro batch
    unfold storeTsn
    split
    · exact serves_modifyConn fun _ => ⟨rfl, rfl, rfl⟩
    · exact .pure _
  refine Serves.bind (R.serves_call rfl) fun _ => Serves.bind (R.serves_call rfl) fun _ => ?_
  refine Serves.bind (R.serves_fetch tbStmt) fun r => Serves.bind (hstore _) fun _ => ?_
  exact Serves.bind (R.serves_call rfl) fun _ => .modify fun w h =>
    h.setConn fun _ => ⟨rfl, rfl, rfl⟩

theorem allocStatement_working {tbStmt : TbStatement} (hconn : tbStmt.conn = key) :
    Proc.Triple (fun w => HandlesKept S w ∧ w.Live key) (allocStatement env tbStmt)
      (fun stmt w => stmt.conn = key ∧ ¬S stmt.hstmt ∧ Working S stmt.hstmt key w)
      fun _ => HandlesKept S := by
  rintro w ⟨h, hlive⟩
  subst hconn
  rcases hrun : allocStatement env tbStmt w with ⟨stmt, w'⟩ | ⟨e, w'⟩
  · obtain ⟨rfl, rfl, -, -⟩ := allocStatement_ok hrun
    have hrc : sqlSucceeded (w.nextRc env) = true := by
      rw [allocStatement, Proc.read_bind_run] at hrun
      obtain ⟨_, _, halloc, -⟩ := Proc.bind_eq_ok.mp hrun
      exact (tbSqlAllocHandle_pure_eq_ok.mp halloc).1
    obtain ⟨hkept, husable⟩ := @HandlesKept.opened env _ _ _ h hlive _ hrc
    refine ⟨rfl, fun hS => ?_, hkept, husable, by simp, hlive⟩
    exact Nat.not_succ_le_self _ (h.stmts _ hS).2
  · have hrc : ¬sqlSucceeded (w.nextRc env) = true := by
      intro hrc
      rw [allocStatement, Proc.read_bind_run, Proc.bind_of_ok (tbSqlAllocHandle_pure_eq_ok.mpr
        ⟨hrc, rfl, rfl⟩)] at hrun
      cases hrun
    have hrefused : HandlesKept S (w.called env (.allocHandle .stmt (w.conn tbStmt.conn).hdbc
        SQL_NULL_HANDLE)) := h.issued (h.dbc _ hlive).1 fun hrc' => (hrc hrc').elim
    have hstore : ∀ (_ : Handle) (w : World), (pure () : Fdw Unit) w = .ok () w := fun _ _ => rfl
    have hfails : tbSqlAllocHandle env tbStmt.conn .stmt (w.conn tbStmt.conn).hdbc
        (fun _ => pure ()) w = _ := tbSqlAllocHandle_fails_run hstore hrc
    rw [allocStatement, Proc.read_bind_run, Proc.bind_of_raise hfails] at hrun
    cases hrun
    exact hrefused.report hlive.1

theorem openStatement_working {tbStmt : TbStatement} (hconn : tbStmt.conn = key)
    (useFbQuery : Bool) :
    Proc.Triple (fun w => HandlesKept S w ∧ w.Live key) (openStatement env tbStmt useFbQuery)
      (fun stmt w => ¬S stmt.hstmt ∧ Working S stmt.hstmt stmt.conn w) fun _ => HandlesKept S := by
  refine Proc.Triple.bind (allocStatement_working hconn) fun stmt => ?_
  rintro w ⟨rfl, hS, h⟩
  have hall : Proc.Triple (Working S stmt.hstmt stmt.conn) (do
      let w ← Proc.read
      Proc.when (!(w.conn stmt.conn).beginRemoteXact)
        (beginRemoteXact env stmt w.isolationUsesXactSnapshot)
      let w ← Proc.read
      Proc.when (useFbQuery && needRemoteSnapshot w stmt.conn) (fetchTsn env stmt)
      let w ← Proc.read
      pure { stmt with tsn := (w.conn stmt.conn).tsn } : Fdw TbStatement)
      (fun stmt w => ¬S stmt.hstmt ∧ Working S stmt.hstmt stmt.conn w)
      fun _ => HandlesKept S := by
    refine .look fun w => .bind (Serves.when (serves_beginRemoteXact _)) fun _ => ?_
    refine .look fun w => .bind (Serves.when (serves_fetchTsn stmt)) fun _ => ?_
    exact .look fun w => .pure fun _ h => ⟨hS, h⟩
  exact hall w h

/-! ## Connecting -/

theorem lookupRules_handles (key : ConnCacheKey) (S : Handle → Prop) :
    LookupRules key (HandlesKept S) where
  setConn w f hf h := by
    refine h.of_conn rfl fun j hj => ?_
    by_cases hk : j = key
    · subst hk
      rw [World.Live, World.setConn_self] at hj
      rw [World.setConn_self]
      exact ⟨⟨hj.1, (hf.connected _).symm.trans hj.2⟩, hf.henv _, hf.hdbc _⟩
    · rw [World.Live, World.setConn_of_ne hk] at hj
      rw [World.setConn_of_ne hk]
      exact ⟨hj, rfl, rfl⟩
  lookup _ _ h := h.same rfl rfl rfl
  invalidated _ cacheid hashvalue h := h.invalidated cacheid hashvalue

/-- A connection is made for an entry that has none. -/
theorem makeTbConnection_handles (user : UserMapping) :
    Proc.Triple (fun w => (HandlesKept S w ∧ key ∈ w.keys) ∧ (w.conn key).connected = false)
      (makeTbConnection pg env key user) (fun _ w => HandlesKept S w ∧ w.Live key)
      fun _ => HandlesKept S := by
  have hconnect : ∀ params, Proc.Triple
      (fun w => (HandlesKept S w ∧ key ∈ w.keys) ∧ (w.conn key).connected = false)
      (connectTbServer env key params) (fun _ w => HandlesKept S w ∧ key ∈ w.keys)
      fun _ w => HandlesKept S w ∧ key ∈ w.keys := by
    intro params w h
    have hkept := @connectTbServer_handles env key S params w h
    have hkeys := ((snapshotRules_touches env w key).connectTbServer params).next (.refl key w)
    rcases hrun : connectTbServer env key params w with ⟨u, w'⟩ | ⟨e, w'⟩ <;>
      rw [hrun] at hkept hkeys <;> exact ⟨hkept, hkeys.keys ▸ h.1.2⟩
  intro w h
  have hmake := @LookupRules.makeTbConnection pg _ _ _ ((lookupRules_handles key S).mem_keys key)
    hconnect user w h
  rcases hrun : makeTbConnection pg env key user w with ⟨u, w'⟩ | ⟨e, w'⟩ <;> rw [hrun] at hmake
  · exact ⟨hmake.1, hmake.2, (makeTbConnection_ok hrun).connected⟩
  · exact hmake.1

/-- When `get_tb_statement` disconnects an invalidated connection, it does not fail after
it has freed the connection handle. -/
def disconnectsWhole (env : Environment) (key : ConnCacheKey) (w : World) : Bool :=
  !(decide (key ∈ w.keys) && (w.conn key).connected && (w.conn key).invalidated) ||
    freesBoth env w.trace.length

theorem ensureConnection_handles (user : UserMapping) :
    Proc.Triple (fun w => (HandlesKept S w ∧ key ∈ w.keys) ∧ disconnectsWhole env key w = true)
      (ensureConnection pg env key user) (fun _ w => HandlesKept S w ∧ w.Live key)
      fun _ => HandlesKept S := by
  rintro w ⟨⟨h, hkey⟩, hwhole⟩
  have hmake : Proc.Triple (fun w => HandlesKept S w ∧ key ∈ w.keys)
      (do
        let w ← Proc.read
        Proc.when (!(w.conn key).connected) (makeTbConnection pg env key user) : Fdw Unit)
      (fun _ w => HandlesKept S w ∧ w.Live key) fun _ => HandlesKept S := by
    rintro w₁ ⟨h₁, hkey₁⟩
    rw [Proc.read_bind_run]
    rcases hconnected : (w₁.conn key).connected with _ | _
    · exact makeTbConnection_handles user w₁ ⟨⟨h₁, hkey₁⟩, hconnected⟩
    · exact ⟨h₁, hkey₁, hconnected⟩
  rw [ensureConnection, Proc.read_bind_run]
  rcases hold : (w.conn key).connected && (w.conn key).invalidated with _ | _
  · exact hmake w ⟨h, hkey⟩
  · rw [Bool.and_eq_true] at hold
    have hfrees : freesBoth env w.trace.length = true := by
      simpa [disconnectsWhole, hkey, hold.1, hold.2] using hwhole
    have hdisconnect := disconnectTbServer_handles h hkey fun _ => hfrees
    rw [Proc.when_true]
    rcases hrun : disconnectTbServer env key w with ⟨u, w₁⟩ | ⟨e, w₁⟩ <;> rw [hrun] at hdisconnect
    · rw [Proc.bind_of_ok hrun]
      refine hmake w₁ ⟨hdisconnect, ?_⟩
      rcases disconnectTbServer_ok hrun with ⟨-, rfl⟩ | ⟨-, rfl, -⟩ <;> exact hkey
    · rw [Proc.bind_of_raise hrun]
      exact hdisconnect

theorem HandlesKept.entered (h : HandlesKept S w) (env : Environment) (key : ConnCacheKey) :
    HandlesKept S (w.entered env key) := by
  refine h.of_conn World.entered_trace fun k hk => ?_
  obtain ⟨hlive, hsame⟩ := World.entered_live hk
  exact ⟨hlive, by rw [hsame], by rw [hsame]⟩

theorem disconnectsWhole_entered :
    disconnectsWhole env key (w.entered env key) = disconnectsWhole env key w := by
  have hkey : key ∈ (w.entered env key).keys := World.mem_entered_keys.mpr (.inl rfl)
  rw [disconnectsWhole, disconnectsWhole, World.entered_trace, decide_eq_true hkey, World.entered]
  split_ifs with hold
  · rw [decide_eq_true hold]
  · rw [decide_eq_false hold]
    simp

/-- **`get_tb_statement`** uses handles that are there, and hands out a new statement. An
invalidated connection must be freed as a whole before the next one is made. -/
theorem getTbStatement_working (user : UserMapping) (tbStmt : TbStatement) (useFbQuery : Bool) :
    Proc.Triple (fun w => HandlesKept S w ∧ disconnectsWhole env user.umid w = true)
      (getTbStatement pg env user tbStmt useFbQuery)
      (fun stmt w => ¬S stmt.hstmt ∧ Working S stmt.hstmt stmt.conn w) fun _ => HandlesKept S := by
  rintro w ⟨h, hwhole⟩
  have hkey : user.umid ∈ (w.entered env user.umid).keys := World.mem_entered_keys.mpr (.inl rfl)
  have hopen : Proc.Triple (fun w => HandlesKept S w ∧ w.Live user.umid)
      (openStatement env { tbStmt with conn := user.umid } useFbQuery)
      (fun stmt w => ¬S stmt.hstmt ∧ Working S stmt.hstmt stmt.conn w) fun _ => HandlesKept S :=
    @openStatement_working env user.umid S { tbStmt with conn := user.umid } rfl useFbQuery
  have htry : Proc.Triple
      (fun w => (HandlesKept S w ∧ user.umid ∈ w.keys) ∧ disconnectsWhole env user.umid w = true)
      (tryTbStatement pg env user { tbStmt with conn := user.umid } useFbQuery)
      (fun stmt w => ¬S stmt.hstmt ∧ Working S stmt.hstmt stmt.conn w) fun _ => HandlesKept S :=
    .bind (ensureConnection_handles user) fun _ => hopen
  have hfirst := htry _ ⟨⟨h.entered env user.umid, hkey⟩, disconnectsWhole_entered.trans hwhole⟩
  rw [getTbStatement_run]
  rcases hrun : tryTbStatement pg env user { tbStmt with conn := user.umid } useFbQuery
    (w.entered env user.umid) with ⟨stmt, w₁⟩ | ⟨err, w₁⟩
  · rw [hrun] at hfirst
    rw [Proc.onError_of_ok hrun]
    exact hfirst
  rw [hrun] at hfirst
  rw [Proc.onError_of_raise hrun]
  split_ifs
  · -- the first attempt has left no connection, so nothing is disconnected
    have hno : (w₁.conn user.umid).connected = false := tryTbStatement_lost hrun
    have hkeys : w₁.keys = (w.entered env user.umid).keys := by
      have htouches : Proc.Keeps (Touches user.umid (w.entered env user.umid))
          (tryTbStatement pg env user { tbStmt with conn := user.umid } useFbQuery) :=
        .bind ((snapshotRules_touches env _ user.umid).ensureConnection user) fun _ =>
          (snapshotRules_touches env _ user.umid).openStatement rfl useFbQuery
      have hnext := htouches.next (Touches.refl user.umid (w.entered env user.umid))
      rw [hrun] at hnext
      exact hnext.keys
    have hdisconnect : disconnectTbServer env user.umid w₁ = .ok () w₁ := by
      rw [disconnectTbServer, Proc.read_bind_run, hno]
      rfl
    -- what is left of the second attempt, from the connection on
    have hrest : Proc.Triple
        (fun w => (HandlesKept S w ∧ user.umid ∈ w.keys) ∧ (w.conn user.umid).connected = false)
        (do
          makeTbConnection pg env user.umid user
          let tbStmt ← allocStatement env { tbStmt with conn := user.umid }
          let w ← Proc.read
          beginRemoteXact env tbStmt w.isolationUsesXactSnapshot
          pure tbStmt : Fdw TbStatement)
        (fun stmt w => ¬S stmt.hstmt ∧ Working S stmt.hstmt stmt.conn w)
        fun _ => HandlesKept S := by
      refine .bind (makeTbConnection_handles user) fun _ => ?_
      refine .bind (allocStatement_working rfl) fun stmt => ?_
      rintro w ⟨hconn, hS, hw⟩
      rw [← hconn] at hw
      exact Proc.Triple.look (fun w => .bind (serves_beginRemoteXact _) fun _ =>
        .pure fun _ h => ⟨hS, h⟩) w hw
    rw [retryTbStatement, Proc.bind_of_ok hdisconnect]
    exact hrest w₁ ⟨⟨hfirst, hkeys ▸ hkey⟩, hno⟩
  · exact hfirst

/-! ## Ending a statement -/

/-- The statement is dropped, or it stays. -/
theorem freeStmt_handles (tbStmt : TbStatement) :
    Proc.Triple (Working S tbStmt.hstmt tbStmt.conn) (tbSqlFreeStmt env tbStmt .drop)
      (fun _ => HandlesKept fun h => S h ∧ h ≠ tbStmt.hstmt) fun _ => HandlesKept S := by
  intro w h
  rw [tbSqlFreeStmt]
  by_cases hrc : sqlSucceeded (w.nextRc env) = true
  · rw [(tbCall_eq_ok (u := ())).mpr ⟨hrc, rfl⟩]
    exact (h.kept.mono fun _ hS => hS.1).dropped h.usable (fun hS => hS.2 rfl) _
  · have hrefused : HandlesKept S (w.called env (.freeStmt tbStmt.hstmt .drop)) :=
      h.kept.issued h.usable fun hrc' => (hrc hrc').elim
    rw [tbCall_fails_run hrc]
    exact hrefused.report h.live.1

/-- When a transaction has ended and its connection is closed, the environment is freed if
the connection was. -/
def endsWhole (env : Environment) (key : ConnCacheKey) (w : World) : Bool :=
  !((w.conn key).connected && ((w.conn key).invalidated || !(w.conn key).keepConnections) &&
    sqlSucceeded (w.nextRc env)) || freesBoth env (w.trace.length + 1)

theorem endRemoteXact_handles (completionType : CompletionType) (h : HandlesKept S w)
    (hkey : key ∈ w.keys) (hwhole : endsWhole env key w = true) :
    HandlesKept S (endRemoteXact env key completionType w).next := by
  rw [endRemoteXact, Proc.read_bind_run]
  rcases hconnected : (w.conn key).connected with _ | _
  · exact h
  have hdbc := (h.dbc key ⟨hkey, hconnected⟩).1
  have hend : tbSqlEndTran env key completionType w = (do
      tbCall env key (.endTran (w.conn key).hdbc completionType)
      modifyConn key fun c => { c with beginRemoteXact := false } : Fdw Unit) w := by
    rw [tbSqlEndTran, Proc.read_bind_run]
  rw [Proc.when_true]
  by_cases hrc : sqlSucceeded (w.nextRc env) = true
  · -- the transaction has ended, and the connection may be closed
    have hended : tbSqlEndTran env key completionType w = .ok ()
        ((w.called env (.endTran (w.conn key).hdbc completionType)).setConn key
          fun c => { c with beginRemoteXact := false }) := by
      rw [hend, Proc.bind_of_ok ((tbCall_eq_ok (u := ())).mpr ⟨hrc, rfl⟩)]
      rfl
    have hkept :
        HandlesKept S ((w.called env (.endTran (w.conn key).hdbc completionType)).setConn key
        fun c => { c with beginRemoteXact := false }) := by
      have hcalled : HandlesKept S (w.called env (.endTran (w.conn key).hdbc completionType)) :=
        h.issued hdbc fun _ => rfl
      refine (lookupRules_handles key S).setConn _ _ ?_ hcalled
      exact ⟨fun _ => rfl, fun _ => rfl, fun _ => rfl, fun _ => rfl⟩
    rw [Proc.bind_of_ok hended, Proc.read_bind_run, World.setConn_self]
    rcases hclose : (w.conn key).invalidated || !(w.conn key).keepConnections with _ | _
    · rw [show ((w.called env (.endTran (w.conn key).hdbc completionType)).conn key) =
        w.conn key from rfl, hclose]
      exact hkept
    · rw [show ((w.called env (.endTran (w.conn key).hdbc completionType)).conn key) =
        w.conn key from rfl, hclose]
      refine disconnectTbServer_handles hkept hkey fun _ => ?_
      rw [World.setConn_trace, World.called_length]
      simpa [endsWhole, hconnected, hclose, hrc] using hwhole
  · have hrefused : HandlesKept S (w.called env (.endTran (w.conn key).hdbc completionType)) :=
      h.issued hdbc fun hrc' => (hrc hrc').elim
    rw [Proc.bind_of_raise (hend.trans (Proc.bind_of_raise (tbCall_fails_run hrc)))]
    exact hrefused.report hkey

/-- The event ends the remote transactions. -/
def XactEvent.endsXact (inErrorRecursionTrouble : Bool) : XactEvent → Bool
  | .preCommit | .parallelPreCommit => true
  | .abort | .parallelAbort => !inErrorRecursionTrouble
  | _ => false

/-- The same of the callback on one entry. -/
def entryEndsWhole (env : Environment) (event : XactEvent) (key : ConnCacheKey) (w : World) :
    Bool :=
  !((w.conn key).beginRemoteXact && event.endsXact w.inErrorRecursionTrouble) ||
    endsWhole env key w

theorem xactCallbackEntry_handles (event : XactEvent) (h : HandlesKept S w) (hkey : key ∈ w.keys)
    (hwhole : entryEndsWhole env event key w = true) :
    HandlesKept S (xactCallbackEntry env event key w).next := by
  rw [xactCallbackEntry, Proc.read_bind_run]
  rcases hbegun : (w.conn key).beginRemoteXact with _ | _
  · exact h
  rw [Proc.when_true]
  have hends : event.endsXact w.inErrorRecursionTrouble = true → endsWhole env key w = true := by
    intro hevent
    simpa [entryEndsWhole, hbegun, hevent] using hwhole
  cases event with
  | preCommit | parallelPreCommit => exact endRemoteXact_handles .commit h hkey (hends rfl)
  | prePrepare | commit | parallelCommit | prepare => exact h
  | abort | parallelAbort =>
    dsimp only
    rcases htrouble : w.inErrorRecursionTrouble with _ | _
    · rw [if_neg (by decide)]
      refine endRemoteXact_handles .rollback h hkey (hends ?_)
      rw [htrouble]
      rfl
    · -- the entry forgets its connection
      rw [if_pos rfl]
      change HandlesKept S (w.setConn key fun c => { c with connected := false })
      refine h.of_conn rfl fun k hk => ?_
      have hne : k ≠ key := by
        rintro rfl
        have hconnected := hk.2
        rw [World.setConn_self] at hconnected
        cases hconnected
      rw [World.Live, World.setConn_of_ne hne] at hk
      rw [World.setConn_of_ne hne]
      exact ⟨hk, rfl, rfl⟩

/-- A transaction callback ends each transaction without an environment that is left. -/
def xactEndsWhole (env : Environment) (event : XactEvent) (w : World) : Bool :=
  !w.xactGotConnection ||
    decide (Proc.StepsMeet (fun key (_ : Unit) w => entryEndsWhole env event key w = true)
      (fun key _ => xactCallbackEntry env event key) w.keys () { w with useSleepOnSig := true })

theorem tbfdwXactCallback_handles (event : XactEvent) (h : HandlesKept S w)
    (hwhole : xactEndsWhole env event w = true) :
    HandlesKept S (tbfdwXactCallback env event w).next := by
  rw [tbfdwXactCallback, Proc.read_bind_run]
  rcases hgot : w.xactGotConnection with _ | _
  · exact h
  have hmeet : Proc.StepsMeet (fun key (_ : Unit) w => entryEndsWhole env event key w = true)
      (fun key _ => xactCallbackEntry env event key) w.keys ()
      { w with useSleepOnSig := true } := by
    simpa [xactEndsWhole, hgot] using hwhole
  have hloop : HandlesKept S (Proc.forEach w.keys (xactCallbackEntry env event)
      { w with useSleepOnSig := true }).next ∧ (Proc.forEach w.keys (xactCallbackEntry env event)
      { w with useSleepOnSig := true }).next.keys = w.keys := by
    refine Proc.forEach_next (I := fun w' => HandlesKept S w' ∧ w'.keys = w.keys) ?_ hmeet
      ⟨h.same rfl rfl rfl, rfl⟩
    rintro key hkey w₁ hends ⟨h₁, hkeys⟩
    refine ⟨xactCallbackEntry_handles event h₁ (hkeys ▸ hkey) hends, ?_⟩
    exact ((xactCallbackEntry_settled event).next (Settled.refl w₁)).keys.trans hkeys
  rw [Proc.when_true, setSleepOnSigOn, Proc.modify_bind_run]
  rcases hrun : Proc.forEach w.keys (xactCallbackEntry env event) { w with useSleepOnSig := true }
    with ⟨u, w₁⟩ | ⟨e, w₁⟩ <;> rw [hrun] at hloop
  · rw [Proc.bind_of_ok hrun, Proc.modify_bind_run]
    exact hloop.1.same rfl rfl rfl
  · rw [Proc.bind_of_raise hrun]
    exact hloop.1

end

end TiberoFdw
