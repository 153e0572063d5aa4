import TiberoFdw.Calls

/-!
# Functions on one entry

`get_tb_statement` and what it calls issue driver calls and change one cache
entry; a lookup of the server may mark others as invalidated. What keeps a property of
worlds on both exits of all of them:

* `SessionRules` — it holds whenever a connection has been opened or closed, and no
  other call touches it (`ConnectedRules` for the calls on an open one);
* `EntryRules` — no driver call touches it at all (`CallRules` where nothing is looked up,
  `SnapshotRules` where the snapshot may be fetched). The isolation level, the start of
  the running statement and the state of error handling are such properties: the wrapper
  runs at one `Moment`.
-/

namespace TiberoFdw

/-- The world after `TbfdwInvalCallback`. -/
def World.invalidated (w : World) (cacheid : CacheId) (hashvalue : Nat) : World :=
  { w with
    useSleepOnSig := false
    conn := fun k =>
      if k ∈ w.keys then invalidateEntry cacheid hashvalue (w.conn k) else w.conn k }

/-- A call that connects, disconnects, or opens a statement: a handle that is
allocated is a new one, and nothing is bound or prepared. -/
def SqlCall.Connects (w : World) (rc : SqlReturn) : SqlCall → Prop
  | .allocHandle _ _ handle => sqlSucceeded rc = true → handle = w.trace.length + 1
  | .setEnvAttr _ _ _ | .setConnectAttr _ _ _ | .driverConnect _ _ | .disconnect _ => True
  | .freeHandle _ _ | .freeStmt _ .close | .execDirect _ _ | .fetch _ | .bindCol _ _ => True
  | _ => False

/-- A call on a connection: it is neither opened nor closed. -/
def SqlCall.OnConnection (w : World) (rc : SqlReturn) : SqlCall → Prop
  | .allocHandle .stmt _ handle => sqlSucceeded rc = true → handle = w.trace.length + 1
  | .setConnectAttr _ _ _ | .freeStmt _ .close | .execDirect _ _ | .fetch _ | .bindCol _ _ => True
  | _ => False

/-- The entry stays with its connection and its snapshot. -/
structure ConnCacheEntry.SameSession (f : ConnCacheEntry → ConnCacheEntry) : Prop where
  henv : ∀ c, (f c).henv = c.henv
  hdbc : ∀ c, (f c).hdbc = c.hdbc
  connected : ∀ c, (f c).connected = c.connected
  tsn : ∀ c, (f c).tsn = c.tsn

/-- What was read from the options stays, too, and so does the mark. -/
structure ConnCacheEntry.SameOptions (f : ConnCacheEntry → ConnCacheEntry) : Prop extends
    ConnCacheEntry.SameSession f where
  invalidated : ∀ c, (f c).invalidated = c.invalidated
  keepConnections : ∀ c, (f c).keepConnections = c.keepConnections
  serverHashvalue : ∀ c, (f c).serverHashvalue = c.serverHashvalue
  mappingHashvalue : ∀ c, (f c).mappingHashvalue = c.mappingHashvalue

theorem ConnCacheEntry.sameOptions_begun (begun : Bool) :
    ConnCacheEntry.SameOptions fun c => { c with beginRemoteXact := begun } :=
  ⟨⟨fun _ => rfl, fun _ => rfl, fun _ => rfl, fun _ => rfl⟩, fun _ => rfl, fun _ => rfl,
    fun _ => rfl, fun _ => rfl⟩

theorem ConnCacheEntry.sameOptions_stmtTs (stmtTs : Int) :
    ConnCacheEntry.SameOptions fun c => { c with stmtTs := stmtTs } :=
  ⟨⟨fun _ => rfl, fun _ => rfl, fun _ => rfl, fun _ => rfl⟩, fun _ => rfl, fun _ => rfl,
    fun _ => rfl, fun _ => rfl⟩

/-- The rules for what no lookup of the server touches. -/
structure LookupRules (key : ConnCacheKey) (I : World → Prop) : Prop where
  setConn : ∀ w f, ConnCacheEntry.SameSession f → I w → I (w.setConn key f)
  lookup : ∀ w lookups, I w → I { w with lookups }
  invalidated : ∀ w cacheid hashvalue, I w → I (w.invalidated cacheid hashvalue)

/-- The rules for a property that a function on an open connection keeps. -/
structure ConnectedRules (env : Environment) (key : ConnCacheKey) (I : World → Prop) : Prop where
  setConn : ∀ w f, ConnCacheEntry.SameOptions f → I w → I (w.setConn key f)
  issued : ∀ w call rc, call.OnConnection w rc → I w → I (w.issued env call rc)
  report : Proc.Keeps I (dropConnection env key)

/-- The rules for a property of connections that a function on the entry keeps. -/
structure SessionRules (pg : Postgres) (env : Environment) (key : ConnCacheKey) (user : UserMapping)
    (I : World → Prop) : Prop extends ConnectedRules env key I where
  disconnect : Proc.Keeps I (disconnectTbServer env key)
  makeTbConnection : Proc.Triple (fun w => I w ∧ (w.conn key).connected = false)
    (makeTbConnection pg env key user) (fun _ => I) (fun _ => I)

/-- The rules for a property that connecting and disconnecting the entry keeps. -/
structure CallRules (env : Environment) (key : ConnCacheKey) (I : World → Prop) : Prop where
  issued : ∀ w call rc, call.Connects w rc → I w → I (w.issued env call rc)
  setConn : ∀ w f, (∀ c : ConnCacheEntry, (f c).tsn = c.tsn) → I w → I (w.setConn key f)

/-- The rules for a property that a function on the entry keeps, as long as it
leaves the snapshot alone. -/
structure EntryRules (env : Environment) (key : ConnCacheKey) (I : World → Prop) : Prop extends
    CallRules env key I where
  lookup : ∀ w lookups, I w → I { w with lookups }
  invalidated : ∀ w cacheid hashvalue, I w → I (w.invalidated cacheid hashvalue)

/-- The same, for a function that may fetch a snapshot. -/
structure SnapshotRules (env : Environment) (key : ConnCacheKey) (I : World → Prop) : Prop extends
    EntryRules env key I where
  setTsn : ∀ w tsn, I w → I (w.setConn key fun c => { c with tsn := tsn })

section

variable {pg : Postgres} {env : Environment} {key : ConnCacheKey} {user : UserMapping}
  {I : World → Prop}

/-! ## Lookups -/

namespace LookupRules

/-- An entry without a connection stays without one. -/
theorem disconnected (R : LookupRules key I) :
    LookupRules key fun w => I w ∧ (w.conn key).connected = false where
  setConn w f hf h := by
    refine ⟨R.setConn w f hf h.1, ?_⟩
    change ((if key = key then f (w.conn key) else w.conn key).connected) = false
    rw [if_pos rfl, hf.connected, h.2]
  lookup w lookups h := ⟨R.lookup w lookups h.1, h.2⟩
  invalidated w cacheid hashvalue h := by
    refine ⟨R.invalidated w cacheid hashvalue h.1, ?_⟩
    change (if key ∈ w.keys then invalidateEntry cacheid hashvalue (w.conn key)
      else w.conn key).connected = false
    rw [invalidateEntry, h.2]
    split_ifs <;> simp_all

/-- No entry is removed. -/
theorem mem_keys (R : LookupRules key I) (k : ConnCacheKey) :
    LookupRules key fun w => I w ∧ k ∈ w.keys where
  setConn w f hf h := ⟨R.setConn w f hf h.1, h.2⟩
  lookup w lookups h := ⟨R.lookup w lookups h.1, h.2⟩
  invalidated w cacheid hashvalue h := ⟨R.invalidated w cacheid hashvalue h.1, h.2⟩

theorem modifyConn (R : LookupRules key I) {f : ConnCacheEntry → ConnCacheEntry}
    (hf : ConnCacheEntry.SameSession f) : Proc.Keeps I (TiberoFdw.modifyConn key f) :=
  .modify fun w h => R.setConn w f hf h

theorem getForeignServer (R : LookupRules key I) (serverid : Oid) :
    Proc.Keeps I (TiberoFdw.getForeignServer env serverid) := by
  refine .read_bind fun w => .bind (.modify fun w h => R.lookup w _ h) fun _ => ?_
  refine .bind (.forEach fun d _ => ?_) fun _ => .pure _
  exact fun w h => R.invalidated w d.1 d.2 h

theorem applyConnectionOptions (R : LookupRules key I) (options : List DefElem)
    (params : ConnParams) :
    Proc.Keeps I (TiberoFdw.applyConnectionOptions pg key options params) := by
  refine applyConnectionOptions_keeps (fun w keep h => R.setConn w _ ?_ h) pg options params
  exact ⟨fun _ => rfl, fun _ => rfl, fun _ => rfl, fun _ => rfl⟩

/-- A connection is made for an entry that has none. -/
theorem makeTbConnection (R : LookupRules key I)
    (hconnect : ∀ params, Proc.Triple (fun w => I w ∧ (w.conn key).connected = false)
      (connectTbServer env key params) (fun _ => I) (fun _ => I)) (user : UserMapping) :
    Proc.Triple (fun w => I w ∧ (w.conn key).connected = false)
      (TiberoFdw.makeTbConnection pg env key user) (fun _ => I) (fun _ => I) := by
  have hlost : ∀ {α : Type} {m : Fdw α},
      Proc.Keeps (fun w => I w ∧ (w.conn key).connected = false) m →
      Proc.Triple (fun w => I w ∧ (w.conn key).connected = false) m
        (fun _ w => I w ∧ (w.conn key).connected = false) (fun _ => I) :=
    fun hm => .weaken hm (fun _ h => h) (fun _ _ h => h) fun _ _ h => h.1
  refine .bind (hlost (R.disconnected.getForeignServer _)) fun server => ?_
  refine .bind (hlost (R.disconnected.modifyConn ?_)) fun _ => ?_
  · exact ⟨fun _ => rfl, fun _ => rfl, fun _ => rfl, fun _ => rfl⟩
  · exact .bind (hlost (R.disconnected.applyConnectionOptions _ _)) fun params => hconnect _

end LookupRules

namespace ConnectedRules

/-! ## Calls on a connection -/

theorem checkReturn (R : ConnectedRules env key I) (sqlerrcode : SqlState) (rc : SqlReturn) :
    Proc.Keeps I (TiberoFdw.checkReturn env key sqlerrcode rc) := by
  rw [TiberoFdw.checkReturn]
  split_ifs
  · exact .pure _
  · exact .bind R.report fun _ => .raise _

theorem tbCall (R : ConnectedRules env key I) {call : SqlCall}
    (hcall : ∀ w rc, call.OnConnection w rc) : Proc.Keeps I (TiberoFdw.tbCall env key call) :=
  .bind (fun w h => R.issued w call _ (hcall w _) h) fun _ => R.checkReturn _ _

theorem tbSqlFetch (R : ConnectedRules env key I) {tbStmt : TbStatement}
    (hconn : tbStmt.conn = key) :
    Proc.Keeps I (TiberoFdw.tbSqlFetch env tbStmt) := by
  have hfetch : Proc.Keeps I (sqlFetch env tbStmt.hstmt) := by
    intro w h
    rw [sqlFetch]
    split_ifs <;> exact R.issued w _ _ trivial h
  refine .bind hfetch fun r => ?_
  dsimp only
  split_ifs
  · exact .pure _
  · rw [hconn]
    exact .bind (R.checkReturn _ _) fun _ => .pure _

theorem beginRemoteXact (R : ConnectedRules env key I) {tbStmt : TbStatement}
    (hconn : tbStmt.conn = key) (isSerializable : Bool) :
    Proc.Keeps I (TiberoFdw.beginRemoteXact env tbStmt isSerializable) := by
  rw [TiberoFdw.beginRemoteXact, tbSqlExecDirect, hconn]
  refine .bind (.read_bind fun w => R.tbCall fun _ _ => trivial) fun _ => ?_
  refine .bind (R.tbCall fun _ _ => trivial) fun _ => .modify fun w h => ?_
  exact R.setConn w _ (ConnCacheEntry.sameOptions_begun true) h

/-- The new statement belongs to the same entry. -/
theorem allocStatement (R : ConnectedRules env key I) {tbStmt : TbStatement}
    (hconn : tbStmt.conn = key) :
    Proc.Triple I (TiberoFdw.allocStatement env tbStmt) (fun stmt w => stmt.conn = key ∧ I w)
      (fun _ => I) := by
  have halloc : ∀ inputHandle, Proc.Keeps I (sqlAllocHandle env .stmt inputHandle) := by
    intro inputHandle w h
    refine R.issued w _ _ (fun hrc => ?_) h
    rw [if_pos hrc]
  have hstore : ∀ inputHandle, Proc.Keeps I
      (tbSqlAllocHandle env key .stmt inputHandle fun _ => pure ()) := fun inputHandle =>
    .bind (halloc inputHandle) fun r => .bind (.pure _) fun _ =>
      .bind (R.checkReturn _ _) fun _ => .pure _
  rw [TiberoFdw.allocStatement, hconn]
  exact .look fun w => .bind (hstore _) fun hstmt => .pure fun w h => ⟨rfl, h⟩

/-! ## With the snapshot -/

variable (R : ConnectedRules env key I)
  (htsn : ∀ w tsn, I w → I (w.setConn key fun c => { c with tsn := tsn }))

include R htsn

theorem fetchTsn {tbStmt : TbStatement} (hconn : tbStmt.conn = key) :
    Proc.Keeps I (TiberoFdw.fetchTsn env tbStmt) := by
  have hcall : ∀ {call : SqlCall}, (∀ w rc, call.OnConnection w rc) →
      Proc.Keeps I (TiberoFdw.tbCall env key call) := R.tbCall
  have hstore : ∀ batch, Proc.Keeps I (storeTsn key batch) := by
    intro batch
    unfold storeTsn
    split
    · exact .modify fun w h => htsn w _ h
    · exact .pure _
  rw [TiberoFdw.fetchTsn, tbSqlExecDirect, tbSqlBindCol, tbSqlFreeStmt, hconn]
  refine .bind (hcall fun _ _ => trivial) fun _ => .bind (hcall fun _ _ => trivial) fun _ => ?_
  refine .bind (R.tbSqlFetch hconn) fun r => .bind (hstore _) fun _ => ?_
  refine .bind (hcall fun _ _ => trivial) fun _ => .modify fun w h => ?_
  exact R.setConn w _ (ConnCacheEntry.sameOptions_stmtTs w.statementStart) h

theorem openStatement {tbStmt : TbStatement} (hconn : tbStmt.conn = key) (useFbQuery : Bool) :
    Proc.Keeps I (TiberoFdw.openStatement env tbStmt useFbQuery) := by
  refine Proc.Triple.bind (R.allocStatement hconn) fun stmt => ?_
  rintro w ⟨hstmt, h⟩
  have hrest : Proc.Keeps I (do
      let w ← Proc.read
      Proc.when (!(w.conn stmt.conn).beginRemoteXact)
        (TiberoFdw.beginRemoteXact env stmt w.isolationUsesXactSnapshot)
      let w ← Proc.read
      Proc.when (useFbQuery && needRemoteSnapshot w stmt.conn) (TiberoFdw.fetchTsn env stmt)
      let w ← Proc.read
      pure { stmt with tsn := (w.conn stmt.conn).tsn } : Fdw TbStatement) := by
    refine .read_bind fun w => .bind (.when (R.beginRemoteXact hstmt _)) fun _ => ?_
    refine .read_bind fun w => .bind (.when (R.fetchTsn htsn hstmt)) fun _ => ?_
    exact .read_bind fun w => .pure _
  exact hrest w h

end ConnectedRules

namespace SessionRules

/-! ## Attempts -/

/-- An entry without a connection gets one. -/
theorem ensureConnection (R : SessionRules pg env key user I) :
    Proc.Keeps I (TiberoFdw.ensureConnection pg env key user) := by
  refine .read_bind fun w => .bind (.when R.disconnect) fun _ => ?_
  intro w h
  rw [Proc.read_bind_run]
  rcases hconn : (w.conn key).connected with _ | _
  · exact R.makeTbConnection w ⟨h, hconn⟩
  · exact h

/-- The entry has lost its connection, so that there is nothing to disconnect. -/
theorem retryTbStatement (R : SessionRules pg env key user I) {tbStmt : TbStatement}
    (hconn : tbStmt.conn = key) :
    Proc.Keeps I (TiberoFdw.retryTbStatement pg env user tbStmt) := by
  rw [TiberoFdw.retryTbStatement, hconn]
  have hlost : Proc.Triple I (disconnectTbServer env key)
      (fun _ w => I w ∧ (w.conn key).connected = false) fun _ => I := by
    intro w h
    have hkeeps := R.disconnect w h
    rcases hrun : disconnectTbServer env key w with ⟨u, w'⟩ | ⟨e, w'⟩
    · rw [hrun] at hkeeps
      rcases disconnectTbServer_ok hrun with ⟨hno, rfl⟩ | ⟨-, rfl, -⟩
      · exact ⟨hkeeps, hno⟩
      · exact ⟨hkeeps, congrArg (·.connected) (World.setConn_self _)⟩
    · rw [hrun] at hkeeps
      exact hkeeps
  refine Proc.Triple.bind hlost fun _ => .bind R.makeTbConnection fun _ => ?_
  refine Proc.Triple.bind (R.allocStatement hconn) fun stmt => ?_
  rintro w ⟨hstmt, h⟩
  have hrest : Proc.Keeps I (do
      let w ← Proc.read
      TiberoFdw.beginRemoteXact env stmt w.isolationUsesXactSnapshot
      pure stmt : Fdw TbStatement) :=
    .read_bind fun w => .bind (R.beginRemoteXact hstmt _) fun _ => .pure _
  exact hrest w h

/-- The two attempts of `get_tb_statement`. -/
theorem attempts (R : SessionRules pg env key user I)
    (htsn : ∀ w tsn, I w → I (w.setConn key fun c => { c with tsn := tsn }))
    {tbStmt : TbStatement} (hconn : tbStmt.conn = key) (useFbQuery : Bool) :
    Proc.Keeps I ((TiberoFdw.tryTbStatement pg env user tbStmt useFbQuery).onError fun err =>
      if err.sqlerrcode = .fdwError then TiberoFdw.retryTbStatement pg env user tbStmt
      else Proc.raise err) := by
  refine .onError ?_ fun err => ?_
  · rw [TiberoFdw.tryTbStatement, hconn]
    exact .bind R.ensureConnection fun _ => R.openStatement htsn hconn _
  · split_ifs
    · exact R.retryTbStatement hconn
    · exact .raise _

/-- **`get_tb_statement`** keeps what holds once the entry was found or added. -/
theorem getTbStatement_next (R : SessionRules pg env user.umid user I)
    (htsn : ∀ w tsn, I w → I (w.setConn user.umid fun c => { c with tsn := tsn })) {w : World}
    (h : I (w.entered env user.umid)) (tbStmt : TbStatement) (useFbQuery : Bool) :
    I (TiberoFdw.getTbStatement pg env user tbStmt useFbQuery w).next := by
  rw [getTbStatement_run]
  exact (R.attempts htsn rfl useFbQuery).next h

end SessionRules

namespace CallRules

/-! ## What no driver call touches -/

theorem issue (R : CallRules env key I) {call : SqlCall} (hcall : ∀ w rc, call.Connects w rc) :
    Proc.Keeps I (TiberoFdw.issue env call) := fun w h => R.issued w call _ (hcall w _) h

theorem modifyConn (R : CallRules env key I) {f : ConnCacheEntry → ConnCacheEntry}
    (hf : ∀ c, (f c).tsn = c.tsn) : Proc.Keeps I (TiberoFdw.modifyConn key f) :=
  .modify fun w h => R.setConn w f hf h

theorem dropConnection (R : CallRules env key I) :
    Proc.Keeps I (TiberoFdw.dropConnection env key) := by
  refine .read_bind fun w => .when (.bind (R.modifyConn fun _ => rfl) fun _ => ?_)
  refine .bind (R.issue fun _ _ => trivial) fun _ => .bind (R.issue fun _ _ => trivial) fun _ => ?_
  exact .bind (R.issue fun _ _ => trivial) fun _ => .pure _

theorem checkReturn (R : CallRules env key I) (sqlerrcode : SqlState) (rc : SqlReturn) :
    Proc.Keeps I (TiberoFdw.checkReturn env key sqlerrcode rc) := by
  rw [TiberoFdw.checkReturn]
  split_ifs
  · exact .pure _
  · exact .bind R.dropConnection fun _ => .raise _

theorem tbCall (R : CallRules env key I) {call : SqlCall} (hcall : ∀ w rc, call.Connects w rc) :
    Proc.Keeps I (TiberoFdw.tbCall env key call) :=
  .bind (R.issue hcall) fun _ => R.checkReturn _ _

theorem tbSqlAllocHandle (R : CallRules env key I) {handleType : HandleType}
    {inputHandle : Handle} {store : Handle → Fdw Unit} (hstore : ∀ h, Proc.Keeps I (store h)) :
    Proc.Keeps I (TiberoFdw.tbSqlAllocHandle env key handleType inputHandle store) := by
  have halloc : Proc.Keeps I (sqlAllocHandle env handleType inputHandle) := by
    intro w h
    refine R.issued w _ _ (fun hrc => ?_) h
    rw [if_pos hrc]
  exact .bind halloc fun r => .bind (hstore _) fun _ => .bind (R.checkReturn _ _) fun _ => .pure _

theorem disconnectTbServer (R : CallRules env key I) :
    Proc.Keeps I (TiberoFdw.disconnectTbServer env key) := by
  have hcall : ∀ {call : SqlCall}, (∀ w rc, call.Connects w rc) →
      Proc.Keeps I (TiberoFdw.tbCall env key call) := R.tbCall
  refine .read_bind fun w =>
    .when (.bind (.read_bind fun w => hcall fun _ _ => trivial) fun _ => ?_)
  refine .bind (hcall fun _ _ => trivial) fun _ => .bind (hcall fun _ _ => trivial) fun _ => ?_
  exact R.modifyConn fun _ => rfl

theorem connectTbServer (R : CallRules env key I) (params : ConnParams) :
    Proc.Keeps I (TiberoFdw.connectTbServer env key params) := by
  refine .bind (R.tbSqlAllocHandle fun _ => R.modifyConn fun _ => rfl) fun henv => ?_
  refine .bind (.read_bind fun w => R.tbCall fun _ _ => trivial) fun _ => ?_
  refine .bind (R.tbSqlAllocHandle fun _ => R.modifyConn fun _ => rfl) fun _ => ?_
  refine .bind ?_ fun _ => R.modifyConn fun _ => rfl
  exact .read_bind fun w => .bind (R.issue fun _ _ => trivial) fun _ => R.checkReturn _ _

end CallRules

namespace EntryRules

theorem lookupRules (R : EntryRules env key I) : LookupRules key I where
  setConn w f hf h := R.setConn w f hf.tsn h
  lookup := R.lookup
  invalidated := R.invalidated

theorem connectedRules (R : EntryRules env key I) : ConnectedRules env key I where
  setConn w f hf h := R.setConn w f hf.tsn h
  issued w call rc hcall h := by
    refine R.issued w call rc ?_ h
    cases call with
    | allocHandle handleType =>
      cases handleType with
      | stmt => exact hcall
      | env | dbc => exact hcall.elim
    | freeStmt hstmt option =>
      cases option with
      | close => trivial
      | drop => exact hcall.elim
    | setConnectAttr | execDirect | fetch | bindCol => trivial
    | _ => exact hcall.elim
  report := R.dropConnection

theorem sessionRules (R : EntryRules env key I) : SessionRules pg env key user I where
  toConnectedRules := R.connectedRules
  disconnect := R.disconnectTbServer
  makeTbConnection := R.lookupRules.makeTbConnection
    (fun params => (R.connectTbServer params).strengthen_pre fun _ h => h.1) user

theorem ensureConnection (R : EntryRules env key I) (user : UserMapping) :
    Proc.Keeps I (TiberoFdw.ensureConnection pg env key user) :=
  SessionRules.ensureConnection (R.sessionRules : SessionRules pg env key user I)

end EntryRules

theorem SnapshotRules.fetchTsn (R : SnapshotRules env key I) {tbStmt : TbStatement}
    (hconn : tbStmt.conn = key) : Proc.Keeps I (TiberoFdw.fetchTsn env tbStmt) :=
  R.connectedRules.fetchTsn R.setTsn hconn

theorem SnapshotRules.openStatement (R : SnapshotRules env key I) {tbStmt : TbStatement}
    (hconn : tbStmt.conn = key) (useFbQuery : Bool) :
    Proc.Keeps I (TiberoFdw.openStatement env tbStmt useFbQuery) :=
  R.connectedRules.openStatement R.setTsn hconn useFbQuery

/-- **`get_tb_statement`** keeps what holds once the entry was found or added; these rules are also
about the TSN of the entry. -/
theorem SnapshotRules.getTbStatement_next (R : SnapshotRules env user.umid I) {w : World}
    (h : I (w.entered env user.umid)) (tbStmt : TbStatement) (useFbQuery : Bool) :
    I (getTbStatement pg env user tbStmt useFbQuery w).next :=
  SessionRules.getTbStatement_next R.sessionRules R.setTsn h tbStmt useFbQuery

end

/-! ## The moment of a call -/

/-- What PostgreSQL tells about the moment of a call. -/
structure Moment where
  isolationUsesXactSnapshot : Bool
  statementStart : Int
  inErrorRecursionTrouble : Bool

/-- The moment that a world is in. -/
def World.moment (w : World) : Moment :=
  ⟨w.isolationUsesXactSnapshot, w.statementStart, w.inErrorRecursionTrouble⟩

theorem snapshotRules_moment (env : Environment) (key : ConnCacheKey) (m : Moment) :
    SnapshotRules env key (·.moment = m) :=
  { issued := fun _ _ _ _ h => h
    setConn := fun _ _ _ h => h
    lookup := fun _ _ h => h
    invalidated := fun _ _ _ h => h
    setTsn := fun _ _ h => h }

/-- **`get_tb_statement` runs at one moment.** -/
theorem getTbStatement_moment {pg : Postgres} {env : Environment} {m : Moment} (user : UserMapping)
    (tbStmt : TbStatement) (useFbQuery : Bool) :
    Proc.Keeps (·.moment = m) (getTbStatement pg env user tbStmt useFbQuery) := by
  refine .of_next fun w h =>
    (snapshotRules_moment env user.umid m).getTbStatement_next ?_ tbStmt useFbQuery
  rw [World.entered]
  split_ifs <;> exact h

end TiberoFdw
