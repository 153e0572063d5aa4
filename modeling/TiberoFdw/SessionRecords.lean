import TiberoFdw.ConnString
import TiberoFdw.OwnedStatements

/-!
# What is on record about a session

The calls of a run leave a record of each connection handle (`SessionRecord`): the string
that it was opened with, and whether a call on it has failed since. Nothing in the code
reads such a record; two of its habits keep it in order (`SessionsSound`):

* an entry is connected anew before its old session can be used by another one, so that
  a session belongs to the user mapping that it was opened for;
* every wrapper that reports a failure ends the session of its entry, so that the entries
  that are connected have sessions in which nothing has failed.
-/

namespace TiberoFdw

/-! ## The record -/

/-- What can be told of the sessions from the calls so far. -/
structure SessionRecord where
  /-- the connection of a statement -/
  session : Handle → Handle
  /-- the string that a connection was opened with -/
  connStr : Handle → Option Text
  /-- a call on the connection has failed since -/
  failed : Handle → Bool

/-- The connection that a call is about, directly or through its statement. -/
def SqlCall.connection? (session : Handle → Handle) : SqlCall → Option Handle
  | .allocHandle .stmt hdbc _ | .freeHandle .dbc hdbc => some hdbc
  | .setConnectAttr hdbc _ _ | .driverConnect hdbc _ | .disconnect hdbc | .endTran hdbc _ =>
    some hdbc
  | .freeHandle .stmt hstmt | .freeStmt hstmt _ | .execDirect hstmt _ | .prepare hstmt _ =>
    some (session hstmt)
  | .execute hstmt _ | .fetch hstmt | .bindCol hstmt _ | .bindParameter hstmt _ _ _ =>
    some (session hstmt)
  | .setStmtAttr hstmt _ _ | .numResultCols hstmt | .describeCol hstmt _ => some (session hstmt)
  | .allocHandle .env _ _ | .allocHandle .dbc _ _ | .setEnvAttr _ _ _ | .freeHandle .env _ => none

/-- The call has failed. The end of a result is not a failure. -/
def Issued.isFailure (issued : Issued) : Bool :=
  !sqlSucceeded issued.rc &&
    !(match issued.call with
      | .fetch _ => issued.rc == SQL_NO_DATA
      | _ => false)

namespace SessionRecord

/-- The record before the first call. -/
def initial : SessionRecord := ⟨fun _ => SQL_NULL_HANDLE, fun _ => none, fun _ => false⟩

/-- What a successful call does. -/
def effect (r : SessionRecord) : SqlCall → SessionRecord
  | .allocHandle .stmt hdbc hstmt => { r with session := Remote.set r.session hstmt hdbc }
  | .driverConnect hdbc connStr =>
    { r with
      connStr := Remote.set r.connStr hdbc (some connStr)
      failed := Remote.set r.failed hdbc false }
  | _ => r

/-- One call. A failure is put down for the connection that it is on. -/
def step (r : SessionRecord) (issued : Issued) : SessionRecord :=
  if issued.isFailure then
    match issued.call.connection? r.session with
    | some hdbc => { r with failed := Remote.set r.failed hdbc true }
    | none => r
  else r.effect issued.call

/-- The record after some calls. -/
def ofTrace (calls : List Issued) : SessionRecord := calls.foldl step initial

theorem ofTrace_concat (calls : List Issued) (issued : Issued) :
    ofTrace (calls ++ [issued]) = (ofTrace calls).step issued := by
  rw [ofTrace, List.foldl_append]
  rfl

end SessionRecord

/-- The record of a world. -/
def World.record (w : World) : SessionRecord := SessionRecord.ofTrace w.trace

/-- No commit is issued in a session in which a call has failed. -/
def CommitsUnfailed (calls : List Issued) : Prop :=
  ∀ n hdbc rc, calls[n]? = some ⟨.endTran hdbc .commit, rc⟩ →
    (SessionRecord.ofTrace (calls.take n)).failed hdbc = false

theorem CommitsUnfailed.concat {calls : List Issued} {issued : Issued} (h : CommitsUnfailed calls)
    (hissued : ∀ hdbc, issued.call = .endTran hdbc .commit →
      (SessionRecord.ofTrace calls).failed hdbc = false) : CommitsUnfailed (calls ++ [issued]) := by
  intro n hdbc rc hn
  rcases Nat.lt_trichotomy n calls.length with hlt | rfl | hgt
  · rw [List.getElem?_append_left hlt] at hn
    rw [List.take_append_of_le_length (Nat.le_of_lt hlt)]
    exact h n hdbc rc hn
  · rw [List.getElem?_concat_length] at hn
    cases hn
    rw [List.take_left]
    exact hissued hdbc rfl
  · rw [List.getElem?_eq_none (by rwa [List.length_append])] at hn
    cases hn

/-- The call opens a session or a statement. -/
def SqlCall.opens : SqlCall → Bool
  | .allocHandle .stmt _ _ => true
  | .driverConnect _ _ => true
  | _ => false

section

variable {env : Environment} {w w' : World} {key : ConnCacheKey}

theorem World.issued_record (call : SqlCall) (rc : SqlReturn) :
    (w.issued env call rc).record = w.record.step ⟨call, rc⟩ :=
  SessionRecord.ofTrace_concat ..

theorem SessionRecord.effect_of_opens {call : SqlCall} (hcall : call.opens = false)
    (r : SessionRecord) : r.effect call = r := by
  cases call with
  | allocHandle handleType _ _ =>
    cases handleType with
    | env | dbc => rfl
    | stmt => cases hcall
  | driverConnect => cases hcall
  | _ => rfl

/-- Statements and strings are noted by the calls that open something. -/
theorem SessionRecord.step_session {call : SqlCall} {rc : SqlReturn} (r : SessionRecord)
    (hcall : call.opens = false ∨ Issued.isFailure ⟨call, rc⟩ = true) :
    (r.step ⟨call, rc⟩).session = r.session ∧ (r.step ⟨call, rc⟩).connStr = r.connStr := by
  rw [SessionRecord.step]
  split_ifs with hfails
  · rcases call.connection? r.session with _ | hdbc <;> exact ⟨rfl, rfl⟩
  · rw [SessionRecord.effect_of_opens (hcall.resolve_right hfails)]
    exact ⟨rfl, rfl⟩

/-- A failure is noted for the connection of the call. -/
theorem SessionRecord.step_failed {call : SqlCall} {rc : SqlReturn} {r : SessionRecord}
    {hdbc : Handle} (hcall : call.opens = false ∨ Issued.isFailure ⟨call, rc⟩ = true)
    (hhdbc : Issued.isFailure ⟨call, rc⟩ = true → call.connection? r.session ≠ some hdbc) :
    (r.step ⟨call, rc⟩).failed hdbc = r.failed hdbc := by
  rw [SessionRecord.step]
  split_ifs with hfails
  · have hne := hhdbc hfails
    dsimp only
    rcases hconnection : call.connection? r.session with _ | hdbc'
    · rfl
    · exact Remote.set_of_ne fun heq => hne (hconnection.trans (congrArg some heq.symm))
  · rw [SessionRecord.effect_of_opens (hcall.resolve_right hfails)]

theorem Issued.isFailure_of_succeeded {call : SqlCall} {rc : SqlReturn}
    (hrc : sqlSucceeded rc = true) : Issued.isFailure ⟨call, rc⟩ = false := by
  rw [Issued.isFailure, hrc]
  rfl

theorem Issued.isFailure_of_failed {call : SqlCall} {rc : SqlReturn}
    (hcall : ∀ hstmt, call ≠ .fetch hstmt) (hrc : ¬sqlSucceeded rc = true) :
    Issued.isFailure ⟨call, rc⟩ = true := by
  rw [Issued.isFailure, eq_false_of_ne_true hrc]
  cases call with
  | fetch hstmt => exact (hcall hstmt rfl).elim
  | _ => rfl

theorem World.issued_record_ok {call : SqlCall} {rc : SqlReturn} (hrc : sqlSucceeded rc = true) :
    (w.issued env call rc).record = w.record.effect call := by
  rw [World.issued_record, SessionRecord.step, Issued.isFailure_of_succeeded hrc,
    if_neg Bool.false_ne_true]

end

/-! ## Sound records -/

/-- The session was opened with a string of the user mapping. -/
def World.OpenedFor (w : World) (Own : ConnCacheKey → Text → Prop) (key : ConnCacheKey)
    (hdbc : Handle) : Prop :=
  ∃ connStr, w.record.connStr hdbc = some connStr ∧ Own key connStr

/-- The sessions of the entries that are connected, and of the statements in `S`, are those
of their user mappings. -/
structure SessionsOwned (Own : ConnCacheKey → Text → Prop) (S : Handle → ConnCacheKey → Prop)
    (w : World) : Prop where
  commits : CommitsUnfailed w.trace
  live : ∀ k, w.Live k → (w.conn k).hdbc ≤ w.trace.length ∧ w.OpenedFor Own k (w.conn k).hdbc
  distinct : ∀ k k', w.Live k → w.Live k' → (w.conn k).hdbc = (w.conn k').hdbc → k = k'
  stmts : ∀ h k, S h k → k ∈ w.keys ∧ h ≤ w.trace.length ∧
    w.record.session h ≤ w.trace.length ∧ w.OpenedFor Own k (w.record.session h)
  uses : ∀ h k k', S h k → w.Live k' → w.record.session h = (w.conn k').hdbc → k' = k
  shares : ∀ h k h' k', S h k → S h' k' → w.record.session h = w.record.session h' → k = k'

/-- And no call has failed in the session of an entry that is connected. -/
structure SessionsSound (Own : ConnCacheKey → Text → Prop) (S : Handle → ConnCacheKey → Prop)
    (w : World) : Prop extends SessionsOwned Own S w where
  unfailed : ∀ k, w.Live k → w.record.failed (w.conn k).hdbc = false

/-- What a wrapper leaves for `TbFdwReportError`: a call may have failed in the session of
its entry. -/
structure SessionsTroubled (Own : ConnCacheKey → Text → Prop) (S : Handle → ConnCacheKey → Prop)
    (key : ConnCacheKey) (w : World) : Prop extends SessionsOwned Own S w where
  unfailed : ∀ k, w.Live k → k ≠ key → w.record.failed (w.conn k).hdbc = false

/-- The call is one for the entry: no other entry has its session, and it does not commit
after a failure. -/
structure SqlCall.IsFor (call : SqlCall) (key : ConnCacheKey) (w : World) : Prop where
  entered : key ∈ w.keys
  alone : ∀ k, w.Live k → call.connection? w.record.session = some (w.conn k).hdbc → k = key
  commit : ∀ hdbc, call = .endTran hdbc .commit → w.record.failed hdbc = false

section

variable {pg : Postgres} {env : Environment} {w w' : World} {key : ConnCacheKey}
  {Own : ConnCacheKey → Text → Prop} {S S' : Handle → ConnCacheKey → Prop}

theorem SessionsOwned.mono (h : SessionsOwned Own S w) (hS : ∀ h k, S' h k → S h k) :
    SessionsOwned Own S' w :=
  ⟨h.commits, h.live, h.distinct, fun hstmt k hS' => h.stmts hstmt k (hS hstmt k hS'),
    fun hstmt k k' hS' => h.uses hstmt k k' (hS hstmt k hS'), fun hstmt k hstmt' k' hS₁ hS₂ =>
      h.shares hstmt k hstmt' k' (hS hstmt k hS₁) (hS hstmt' k' hS₂)⟩

theorem SessionsSound.mono (h : SessionsSound Own S w) (hS : ∀ h k, S' h k → S h k) :
    SessionsSound Own S' w :=
  ⟨h.toSessionsOwned.mono hS, h.unfailed⟩

/-- The same calls, no entry less, and no connection that was not there. -/
theorem SessionsOwned.of_conn (h : SessionsOwned Own S w) (htrace : w'.trace = w.trace)
    (hkeys : ∀ k ∈ w.keys, k ∈ w'.keys)
    (hconn : ∀ k, w'.Live k → w.Live k ∧ (w'.conn k).hdbc = (w.conn k).hdbc) :
    SessionsOwned Own S w' := by
  have hrecord : w'.record = w.record := by rw [World.record, World.record, htrace]
  constructor
  · rw [htrace]
    exact h.commits
  · intro k hk
    obtain ⟨hlive, hhdbc⟩ := hconn k hk
    rw [World.OpenedFor, hrecord, htrace, hhdbc]
    exact h.live k hlive
  · intro k k' hk hk' heq
    obtain ⟨hlive, hhdbc⟩ := hconn k hk
    obtain ⟨hlive', hhdbc'⟩ := hconn k' hk'
    rw [hhdbc, hhdbc'] at heq
    exact h.distinct k k' hlive hlive' heq
  · intro hstmt k hS
    obtain ⟨hkey, hrest⟩ := h.stmts hstmt k hS
    rw [World.OpenedFor, hrecord, htrace]
    exact ⟨hkeys k hkey, hrest⟩
  · intro hstmt k k' hS hk' heq
    obtain ⟨hlive', hhdbc'⟩ := hconn k' hk'
    rw [hrecord, hhdbc'] at heq
    exact h.uses hstmt k k' hS hlive' heq
  · rw [hrecord]
    exact h.shares

theorem SessionsSound.of_conn (h : SessionsSound Own S w) (htrace : w'.trace = w.trace)
    (hkeys : ∀ k ∈ w.keys, k ∈ w'.keys)
    (hconn : ∀ k, w'.Live k → w.Live k ∧ (w'.conn k).hdbc = (w.conn k).hdbc) :
    SessionsSound Own S w' := by
  refine ⟨h.toSessionsOwned.of_conn htrace hkeys hconn, fun k hk => ?_⟩
  obtain ⟨hlive, hhdbc⟩ := hconn k hk
  rw [World.record, htrace, hhdbc]
  exact h.unfailed k hlive

theorem SessionsSound.same (h : SessionsSound Own S w) (htrace : w'.trace = w.trace)
    (hconn : w'.conn = w.conn) (hkeys : w'.keys = w.keys) : SessionsSound Own S w' := by
  refine h.of_conn htrace (fun k hk => hkeys ▸ hk) fun k hk => ?_
  rw [World.Live, hconn, hkeys] at hk
  rw [hconn]
  exact ⟨hk, rfl⟩

/-- Fields that say nothing about the session. -/
theorem World.setConn_live {f : ConnCacheEntry → ConnCacheEntry} {k : ConnCacheKey}
    (hf : (f (w.conn key)).connected = true →
      (w.conn key).connected = true ∧ (f (w.conn key)).hdbc = (w.conn key).hdbc)
    (hk : (w.setConn key f).Live k) :
    w.Live k ∧ ((w.setConn key f).conn k).hdbc = (w.conn k).hdbc := by
  by_cases hne : k = key
  · subst hne
    rw [World.Live, World.setConn_self] at hk
    rw [World.setConn_self]
    exact ⟨⟨hk.1, (hf hk.2).1⟩, (hf hk.2).2⟩
  · rw [World.Live, World.setConn_of_ne hne] at hk
    rw [World.setConn_of_ne hne]
    exact ⟨hk, rfl⟩

theorem World.invalidated_live {cacheid : CacheId} {hashvalue : Nat} {k : ConnCacheKey}
    (hk : (w.invalidated cacheid hashvalue).Live k) :
    w.Live k ∧ ((w.invalidated cacheid hashvalue).conn k).hdbc = (w.conn k).hdbc := by
  have hconn : (w.invalidated cacheid hashvalue).conn k =
      invalidateEntry cacheid hashvalue (w.conn k) := if_pos hk.1
  have hconnected := hk.2
  rw [hconn, invalidateEntry] at hconnected
  rw [hconn, invalidateEntry]
  split_ifs at hconnected ⊢ <;> exact ⟨⟨hk.1, hconnected⟩, rfl⟩

theorem SessionsSound.setConn (h : SessionsSound Own S w) {f : ConnCacheEntry → ConnCacheEntry}
    (hf : (f (w.conn key)).connected = true →
      (w.conn key).connected = true ∧ (f (w.conn key)).hdbc = (w.conn key).hdbc) :
    SessionsSound Own S (w.setConn key f) :=
  h.of_conn rfl (fun _ hk => hk) fun _ => World.setConn_live hf

/-! ## Calls -/

/-- A call that opens nothing, or fails, changes no owner. -/
theorem SessionsOwned.issued (h : SessionsOwned Own S w) {call : SqlCall} {rc : SqlReturn}
    (hcall : call.opens = false ∨ Issued.isFailure ⟨call, rc⟩ = true)
    (hcommit : ∀ hdbc, call = .endTran hdbc .commit → w.record.failed hdbc = false) :
    SessionsOwned Own S (w.issued env call rc) := by
  have hsession := SessionRecord.step_session w.record hcall
  have hopened : ∀ k hdbc, w.OpenedFor Own k hdbc →
      (w.issued env call rc).OpenedFor Own k hdbc := by
    rintro k hdbc ⟨connStr, hstr, hown⟩
    refine ⟨connStr, ?_, hown⟩
    rw [World.issued_record, hsession.2, hstr]
  have hle : w.trace.length ≤ (w.issued env call rc).trace.length := by simp
  constructor
  · exact h.commits.concat hcommit
  · intro k hk
    exact ⟨Nat.le_trans (h.live k hk).1 hle, hopened k _ (h.live k hk).2⟩
  · exact h.distinct
  · intro hstmt k hS
    obtain ⟨hkey, hstmtLe, hsessionLe, hopen⟩ := h.stmts hstmt k hS
    rw [World.issued_record, hsession.1]
    exact ⟨hkey, Nat.le_trans hstmtLe hle, Nat.le_trans hsessionLe hle, hopened k _ hopen⟩
  · intro hstmt k k' hS hk' heq
    rw [World.issued_record, hsession.1] at heq
    exact h.uses hstmt k k' hS hk' heq
  · rw [World.issued_record, hsession.1]
    exact h.shares

/-- A call for the entry that does not fail. -/
theorem SessionsSound.issued (h : SessionsSound Own S w) {call : SqlCall} {rc : SqlReturn}
    (hfor : call.IsFor key w) (hopens : call.opens = false)
    (hrc : Issued.isFailure ⟨call, rc⟩ = false) : SessionsSound Own S (w.issued env call rc) := by
  refine ⟨h.toSessionsOwned.issued (.inl hopens) hfor.commit, fun k hk => ?_⟩
  rw [World.issued_record, SessionRecord.step_failed (.inl hopens)]
  · exact h.unfailed k hk
  · rw [hrc]
    rintro ⟨⟩

/-- A call for the entry, whatever it returns. -/
theorem SessionsTroubled.issued (h : SessionsTroubled Own S key w) {call : SqlCall}
    (hfor : call.IsFor key w) {rc : SqlReturn}
    (hcall : call.opens = false ∨ Issued.isFailure ⟨call, rc⟩ = true) :
    SessionsTroubled Own S key (w.issued env call rc) := by
  refine ⟨h.toSessionsOwned.issued hcall hfor.commit, fun k hk hne => ?_⟩
  rw [World.issued_record, SessionRecord.step_failed hcall]
  · exact h.unfailed k hk hne
  · exact fun _ heq => hne (hfor.alone k hk heq)

theorem SessionsSound.troubled (h : SessionsSound Own S w) (key : ConnCacheKey) :
    SessionsTroubled Own S key w :=
  ⟨h.toSessionsOwned, fun k hk _ => h.unfailed k hk⟩

/-- Nothing is left of the trouble without the connection. -/
theorem SessionsTroubled.sound (h : SessionsTroubled Own S key w) (hlost : ¬w.Live key) :
    SessionsSound Own S w := by
  refine ⟨h.toSessionsOwned, fun k hk => h.unfailed k hk ?_⟩
  rintro rfl
  exact hlost hk

/-- A call in the session of an entry that is connected, or in none. -/
theorem SqlCall.isFor_of_live {call : SqlCall} (h : SessionsOwned Own S w) (hlive : w.Live key)
    (hcall : ∀ hdbc, call.connection? w.record.session = some hdbc → hdbc = (w.conn key).hdbc)
    (hcommit : ∀ hdbc, call = .endTran hdbc .commit → w.record.failed hdbc = false) :
    call.IsFor key w :=
  ⟨hlive.1, fun k hk heq => h.distinct k key hk hlive (hcall _ heq), hcommit⟩

theorem World.disconnected_live {k : ConnCacheKey} (hk : (w.disconnected env key).Live k) :
    k ≠ key ∧ w.Live k ∧ (w.disconnected env key).conn k = w.conn k := by
  have hne : k ≠ key := by
    rintro rfl
    rw [World.Live, World.disconnected, World.setConn_self] at hk
    cases hk.2
  have hconn : (w.disconnected env key).conn k = w.conn k := World.setConn_of_ne hne _
  rw [World.Live, hconn] at hk
  exact ⟨hne, hk, hconn⟩

/-- The three calls that disconnect the entry are calls for it, whatever they return. -/
theorem SessionsTroubled.disconnected (h : SessionsTroubled Own S key w) (hlive : w.Live key) :
    SessionsSound Own S (w.disconnected env key) := by
  have hnext : ∀ {w₁ : World} (call : SqlCall), SessionsTroubled Own S key w₁ →
      w₁.conn = w.conn → w₁.keys = w.keys → call.opens = false →
      (∀ hdbc, call.connection? w₁.record.session = some hdbc → hdbc = (w.conn key).hdbc) →
      (∀ hdbc, call ≠ .endTran hdbc .commit) →
      SessionsTroubled Own S key (w₁.called env call) := by
    intro w₁ call h₁ hconn hkeys hopens hcall hcommit
    refine h₁.issued (SqlCall.isFor_of_live h₁.toSessionsOwned ?_ ?_ fun hdbc heq =>
      (hcommit hdbc heq).elim) (.inl hopens)
    · rw [World.Live, hconn, hkeys]
      exact hlive
    · rw [hconn]
      exact hcall
  have h₁ := hnext (.disconnect (w.conn key).hdbc) h rfl rfl rfl
    (by rintro _ ⟨⟩; rfl) (by rintro _ ⟨⟩)
  have h₂ := hnext (.freeHandle .dbc (w.conn key).hdbc) h₁ rfl rfl rfl
    (by rintro _ ⟨⟩; rfl) (by rintro _ ⟨⟩)
  have h₃ := hnext (.freeHandle .env (w.conn key).henv) h₂ rfl rfl rfl
    (by rintro _ ⟨⟩) (by rintro _ ⟨⟩)
  refine ⟨h₃.toSessionsOwned.of_conn rfl (fun k hk => hk) fun k hk => ?_, fun k hk => ?_⟩
  · obtain ⟨-, hlive', hconn⟩ := World.disconnected_live hk
    exact ⟨hlive', by rw [hconn]; rfl⟩
  · obtain ⟨hne, hlive', hconn⟩ := World.disconnected_live hk
    rw [hconn]
    exact h₃.unfailed k hlive' hne

/-- **Reporting a failure** ends the session of the entry, and the trouble with it. The records
are sound again, without a session that has failed. -/
theorem SessionsTroubled.dropped (h : SessionsTroubled Own S key w) (hkey : key ∈ w.keys) :
    SessionsSound Own S (dropConnection env key w).next := by
  rw [dropConnection_eq]
  rcases hconnected : (w.conn key).connected with _ | _
  · refine h.sound fun hlive => ?_
    rw [hlive.2] at hconnected
    cases hconnected
  · exact h.disconnected ⟨hkey, hconnected⟩

end

end TiberoFdw
