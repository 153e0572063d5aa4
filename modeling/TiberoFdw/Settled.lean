import TiberoFdw.Callbacks
import TiberoFdw.OneEntry

/-!
# What becomes of the connections

Outside `make_tb_connection` and the query for the snapshot, an entry that has a
connection afterwards is the one it was: the same session, the same snapshot, the
same hash values, and no mark of an invalidation is lost (`Settled`). Inside, this
holds of all the other entries (`Touches`).
-/

namespace TiberoFdw

/-- The session is still the same. -/
structure SessionKept (c c' : ConnCacheEntry) : Prop where
  connected : c.connected = true
  hdbc : c'.hdbc = c.hdbc
  serverHashvalue : c'.serverHashvalue = c.serverHashvalue
  mappingHashvalue : c'.mappingHashvalue = c.mappingHashvalue
  keepConnections : c'.keepConnections = c.keepConnections
  invalidated : c.invalidated = true → c'.invalidated = true

/-- The connection is still the same, and its snapshot too. -/
structure EntryKept (c c' : ConnCacheEntry) : Prop extends SessionKept c c' where
  tsn : c'.tsn = c.tsn
  stmtTs : c'.stmtTs = c.stmtTs

/-- The entry has lost its connection, or it still has it. -/
def ConnCacheEntry.Continues (c c' : ConnCacheEntry) : Prop := c'.connected = true → EntryKept c c'

namespace ConnCacheEntry.Continues

variable {c c' c'' : ConnCacheEntry}

theorem refl (c : ConnCacheEntry) : c.Continues c :=
  fun h => ⟨⟨h, rfl, rfl, rfl, rfl, id⟩, rfl, rfl⟩

theorem trans (h : c.Continues c') (h' : c'.Continues c'') : c.Continues c'' := by
  intro hconn
  have hk' := h' hconn
  have hk := h hk'.connected
  exact ⟨⟨hk.connected, hk'.hdbc.trans hk.hdbc, hk'.serverHashvalue.trans hk.serverHashvalue,
    hk'.mappingHashvalue.trans hk.mappingHashvalue, hk'.keepConnections.trans hk.keepConnections,
    fun hinv => hk'.invalidated (hk.invalidated hinv)⟩, hk'.tsn.trans hk.tsn,
    hk'.stmtTs.trans hk.stmtTs⟩

theorem of_disconnected (h : c'.connected = false) : c.Continues c' := by
  intro hconn
  rw [h] at hconn
  cases hconn

theorem beginRemoteXact (c : ConnCacheEntry) (begun : Bool) :
    c.Continues { c with beginRemoteXact := begun } :=
  fun h => ⟨⟨h, rfl, rfl, rfl, rfl, id⟩, rfl, rfl⟩

theorem invalidate (cacheid : CacheId) (hashvalue : Nat) (c : ConnCacheEntry) :
    c.Continues (invalidateEntry cacheid hashvalue c) := by
  rw [invalidateEntry]
  split_ifs
  · exact fun h => ⟨⟨h, rfl, rfl, rfl, rfl, fun _ => rfl⟩, rfl, rfl⟩
  · exact refl c

end ConnCacheEntry.Continues

/-- Time has passed, and the connections that are there were there. -/
structure Settled (w w' : World) : Prop where
  keys : w'.keys = w.keys
  statementStart : w'.statementStart = w.statementStart
  lookups : w'.lookups = w.lookups
  trace : w.trace <+: w'.trace
  entry : ∀ k, (w.conn k).Continues (w'.conn k)

/-- The same, except for the connection of one entry. -/
structure Touches (key : ConnCacheKey) (w w' : World) : Prop where
  keys : w'.keys = w.keys
  statementStart : w'.statementStart = w.statementStart
  trace : w.trace <+: w'.trace
  others : ∀ k, k ≠ key → (w.conn k).Continues (w'.conn k)

section

variable {pg : Postgres} {env : Environment} {w₀ w w' : World} {key : ConnCacheKey}

namespace Settled

theorem refl (w : World) : Settled w w :=
  ⟨rfl, rfl, rfl, List.prefix_rfl, fun k => .refl (w.conn k)⟩

theorem issued (h : Settled w₀ w) (call : SqlCall) (rc : SqlReturn) :
    Settled w₀ (w.issued env call rc) :=
  ⟨h.keys, h.statementStart, h.lookups, h.trace.trans (List.prefix_append ..), h.entry⟩

theorem setConn (h : Settled w₀ w) {f : ConnCacheEntry → ConnCacheEntry}
    (hf : (w.conn key).Continues (f (w.conn key))) : Settled w₀ (w.setConn key f) := by
  refine ⟨h.keys, h.statementStart, h.lookups, h.trace, fun k => ?_⟩
  by_cases hk : k = key
  · subst hk
    rw [World.setConn_self]
    exact (h.entry k).trans hf
  · rw [World.setConn_of_ne hk]
    exact h.entry k

theorem invalidated (h : Settled w₀ w) (cacheid : CacheId) (hashvalue : Nat) :
    Settled w₀ (w.invalidated cacheid hashvalue) := by
  refine ⟨h.keys, h.statementStart, h.lookups, h.trace, fun k => (h.entry k).trans ?_⟩
  change (w.conn k).Continues
    (if k ∈ w.keys then invalidateEntry cacheid hashvalue (w.conn k) else w.conn k)
  split_ifs
  · exact .invalidate cacheid hashvalue _
  · exact .refl _

theorem touches (h : Settled w w') : Touches key w w' :=
  ⟨h.keys, h.statementStart, h.trace, fun k _ => h.entry k⟩

end Settled

/-! ## Functions that only end connections -/

theorem issue_settled (call : SqlCall) : Proc.Keeps (Settled w₀) (issue env call) :=
  fun _ h => h.issued call _

theorem modifyConn_settled {f : ConnCacheEntry → ConnCacheEntry}
    (hf : ∀ c : ConnCacheEntry, c.Continues (f c)) :
    Proc.Keeps (Settled w₀) (modifyConn key f) :=
  .modify fun _ h => h.setConn (hf _)

theorem dropConnection_settled : Proc.Keeps (Settled w₀) (dropConnection env key) := by
  refine .read_bind fun w => .when (.bind (modifyConn_settled fun c => ?_) fun _ => ?_)
  · exact .of_disconnected rfl
  refine .bind (issue_settled _) fun _ => .bind (issue_settled _) fun _ => ?_
  exact .bind (issue_settled _) fun _ => .pure _

theorem checkReturn_settled (sqlerrcode : SqlState) (rc : SqlReturn) :
    Proc.Keeps (Settled w₀) (checkReturn env key sqlerrcode rc) := by
  rw [checkReturn]
  split_ifs
  · exact .pure _
  · exact .bind dropConnection_settled fun _ => .raise _

theorem tbCall_settled (call : SqlCall) : Proc.Keeps (Settled w₀) (tbCall env key call) :=
  .bind (issue_settled call) fun _ => checkReturn_settled _ _

theorem disconnectTbServer_settled : Proc.Keeps (Settled w₀) (disconnectTbServer env key) := by
  refine .read_bind fun w => .when (.bind (.read_bind fun w => tbCall_settled _) fun _ => ?_)
  refine .bind (tbCall_settled _) fun _ => .bind (tbCall_settled _) fun _ => ?_
  exact modifyConn_settled fun c => .of_disconnected rfl

theorem endRemoteXact_settled (completionType : CompletionType) :
    Proc.Keeps (Settled w₀) (endRemoteXact env key completionType) := by
  refine .read_bind fun w => .when (.bind ?_ fun _ => ?_)
  · refine .read_bind fun w => .bind (tbCall_settled _) fun _ => ?_
    exact modifyConn_settled fun c => .beginRemoteXact c false
  · exact .read_bind fun w => .when disconnectTbServer_settled

theorem xactCallbackEntry_settled (event : XactEvent) :
    Proc.Keeps (Settled w₀) (xactCallbackEntry env event key) := by
  refine .read_bind fun w => .when ?_
  cases event with
  | preCommit | parallelPreCommit => exact endRemoteXact_settled .commit
  | prePrepare | commit | parallelCommit | prepare => exact .pure ()
  | abort | parallelAbort =>
    dsimp only
    split_ifs
    · exact modifyConn_settled fun c => .of_disconnected rfl
    · exact endRemoteXact_settled .rollback

theorem tbfdwXactCallback_settled (event : XactEvent) :
    Proc.Keeps (Settled w₀) (tbfdwXactCallback env event) := by
  have hsleep : Proc.Keeps (Settled w₀) setSleepOnSigOn :=
    .modify fun _ h => ⟨h.keys, h.statementStart, h.lookups, h.trace, h.entry⟩
  have hgot : Proc.Keeps (Settled w₀)
      (Proc.modify fun w => { w with xactGotConnection := false } : Fdw Unit) :=
    .modify fun _ h => ⟨h.keys, h.statementStart, h.lookups, h.trace, h.entry⟩
  have hoff : Proc.Keeps (Settled w₀) setSleepOnSigOff :=
    .modify fun _ h => ⟨h.keys, h.statementStart, h.lookups, h.trace, h.entry⟩
  refine .read_bind fun w => .when (.bind hsleep fun _ => ?_)
  exact .bind (.forEach fun key _ => xactCallbackEntry_settled event) fun _ =>
    .bind hgot fun _ => hoff

/-- What settles the connections keeps an invariant that settled connections keep. -/
theorem Settled.keeps {I : World → Prop} (hI : ∀ w w', Settled w w' → I w → I w') {α : Type}
    {m : Fdw α} (hm : ∀ w₀, Proc.Keeps (Settled w₀) m) : Proc.Keeps I m := by
  intro w h
  have hsettled := hm w w (Settled.refl w)
  rcases hrun : m w with ⟨a, w'⟩ | ⟨e, w'⟩ <;> rw [hrun] at hsettled <;>
    exact hI w w' hsettled h

theorem StatementRules.of_settled {I : World → Prop} (hI : ∀ w w', Settled w w' → I w → I w') :
    StatementRules env I fun _ _ => I where
  inv _ _ _ h := h
  sleepUsing _ _ w _ := hI _ _ ⟨rfl, rfl, rfl, List.prefix_rfl, fun k => .refl (w.conn k)⟩
  issued _ _ w call rc _ := hI _ _ ((Settled.refl w).issued call rc)
  report _ _ := Settled.keeps hI fun _ => dropConnection_settled

/-- An invariant that settled connections keep, and that opening statements and
looking up servers keep, is kept by all callbacks. -/
theorem CallbackRules.of_settled {I : World → Prop} (hI : ∀ w w', Settled w w' → I w → I w')
    (hget : ∀ user tbStmt useFbQuery,
      Proc.Keeps I (TiberoFdw.getTbStatement pg env user tbStmt useFbQuery))
    (hlookup : ∀ serverid, Proc.Keeps I (TiberoFdw.getForeignServer env serverid)) :
    CallbackRules pg env I (fun _ _ => I) := by
  exact
    { StatementRules.of_settled hI with
      sleep := fun w _ => hI _ _ ⟨rfl, rfl, rfl, List.prefix_rfl, fun k => .refl (w.conn k)⟩
      drop := fun tbStmt => Settled.keeps hI fun _ => tbCall_settled (.freeStmt tbStmt.hstmt .drop)
      trouble := fun w _ => hI _ _ ⟨rfl, rfl, rfl, List.prefix_rfl, fun k => .refl (w.conn k)⟩
      getTbStatement := hget
      getForeignServer := hlookup
      xactCallback := fun event => Settled.keeps hI fun _ => tbfdwXactCallback_settled event
      invalCallback := fun cacheid hashvalue =>
        Settled.keeps hI fun _ _ h => h.invalidated cacheid hashvalue }

/-- Looking up a server keeps it as well, when the number of lookups plays no part. -/
theorem getForeignServer_keeps {I : World → Prop} (hI : ∀ w w', Settled w w' → I w → I w')
    (hlookups : ∀ w lookups, I w → I { w with lookups }) (serverid : Oid) :
    Proc.Keeps I (getForeignServer env serverid) := by
  refine .read_bind fun w => .bind (.modify fun w h => hlookups w _ h) fun _ => ?_
  refine .bind (.forEach fun d _ => ?_) fun _ => .pure _
  exact fun w h => hI _ _ ((Settled.refl w).invalidated d.1 d.2) h

/-! ## Functions that may open one -/

theorem Touches.refl (key : ConnCacheKey) (w : World) : Touches key w w := (Settled.refl w).touches

theorem Touches.trans (h : Touches key w₀ w) (h' : Touches key w w') : Touches key w₀ w' :=
  ⟨h'.keys.trans h.keys, h'.statementStart.trans h.statementStart, h.trace.trans h'.trace,
    fun k hk => (h.others k hk).trans (h'.others k hk)⟩

variable (env key w₀) in
/-- The functions on an entry touch no other connection. -/
theorem snapshotRules_touches : SnapshotRules env key (Touches key w₀) := by
  have hsetConn : ∀ w f, Touches key w₀ w → Touches key w₀ (w.setConn key f) := by
    refine fun w f h => ⟨h.keys, h.statementStart, h.trace, fun k hk => ?_⟩
    rw [World.setConn_of_ne hk]
    exact h.others k hk
  exact
    { issued := fun w call rc _ h => h.trans ((Settled.refl w).issued call rc).touches
      setConn := fun w f _ => hsetConn w f
      lookup := fun w _ h => ⟨h.keys, h.statementStart, h.trace, h.others⟩
      invalidated := fun w cacheid hashvalue h =>
        h.trans ((Settled.refl w).invalidated cacheid hashvalue).touches
      setTsn := fun w _ => hsetConn w _ }

@[simp] theorem World.entered_statementStart :
    (w.entered env key).statementStart = w.statementStart := by
  rw [World.entered]
  split_ifs <;> rfl

/-- `get_tb_statement` touches the connection of its entry only. -/
theorem getTbStatement_touches (pg : Postgres) (env : Environment) (user : UserMapping)
    (tbStmt : TbStatement) (useFbQuery : Bool) (w : World) :
    Touches user.umid (w.entered env user.umid)
      (getTbStatement pg env user tbStmt useFbQuery w).next := by
  apply (snapshotRules_touches env _ user.umid).getTbStatement_next
  exact Touches.refl user.umid (w.entered env user.umid)

theorem ensureConnection_touches {user : UserMapping} {u : Unit}
    (h : ensureConnection pg env key user w = .ok u w') : Touches key w w' := by
  have hkeeps : Proc.Keeps (Touches key w) (ensureConnection pg env key user) :=
    (snapshotRules_touches env w key).ensureConnection user
  have htouches := hkeeps.next (Touches.refl key w)
  rw [h] at htouches
  exact htouches

/-! ## Errors -/

/-- The first attempt leaves no connection behind when it raises an error. -/
theorem tryTbStatement_lost {user : UserMapping} {tbStmt : TbStatement} {useFbQuery : Bool}
    {e : PgError} (h : tryTbStatement pg env user tbStmt useFbQuery w = .raise e w') :
    (w'.conn tbStmt.conn).connected = false := by
  rw [tryTbStatement] at h
  rcases Proc.bind_eq_raise.mp h with hraise | ⟨_, w₁, -, hraise⟩
  · exact (ensureConnection_raise hraise).2
  · exact ((openStatement_confines rfl useFbQuery).apply_raise hraise).2

/-- Nor does the second one. -/
theorem retryTbStatement_lost {user : UserMapping} {tbStmt : TbStatement} {e : PgError}
    (h : retryTbStatement pg env user tbStmt w = .raise e w') :
    (w'.conn tbStmt.conn).connected = false := by
  rw [retryTbStatement] at h
  rcases Proc.bind_eq_raise.mp h with hraise | ⟨_, w₁, hdisconnect, h⟩
  · exact (disconnectTbServer_confines.apply_raise hraise).2
  have hconn₁ : (w₁.conn tbStmt.conn).connected = false := by
    rcases disconnectTbServer_ok hdisconnect with ⟨hconn, rfl⟩ | ⟨-, rfl, -⟩
    · exact hconn
    · exact World.disconnected_connected
  rcases Proc.bind_eq_raise.mp h with hraise | ⟨_, w₂, -, h⟩
  · exact (makeTbConnection_raise hconn₁ hraise).2
  rcases Proc.bind_eq_raise.mp h with hraise | ⟨stmt, w₃, halloc, h⟩
  · exact ((allocStatement_confines rfl).apply_raise hraise).2
  obtain ⟨rfl, -⟩ := allocStatement_ok halloc
  rw [Proc.read_bind_run] at h
  rcases Proc.bind_eq_raise.mp h with hraise | ⟨_, w₄, -, h⟩
  · exact ((beginRemoteXact_confines rfl _).apply_raise hraise).2
  · cases h

/-- **An error of `get_tb_statement` leaves no connection.** So the next request of the user mapping
starts anew. -/
theorem getTbStatement_lost {user : UserMapping} {tbStmt : TbStatement} {useFbQuery : Bool}
    {e : PgError} (h : getTbStatement pg env user tbStmt useFbQuery w = .raise e w') :
    (w'.conn user.umid).connected = false := by
  rw [getTbStatement_run] at h
  rcases htry : tryTbStatement pg env user { tbStmt with conn := user.umid } useFbQuery
      (w.entered env user.umid) with ⟨stmt₁, w₁⟩ | ⟨err, w₁⟩
  · rw [Proc.onError_of_ok htry] at h
    cases h
  · rw [Proc.onError_of_raise htry] at h
    by_cases hcode : err.sqlerrcode = .fdwError
    · rw [if_pos hcode] at h
      exact retryTbStatement_lost h
    · rw [if_neg hcode] at h
      cases h
      exact tryTbStatement_lost htry

end

end TiberoFdw
