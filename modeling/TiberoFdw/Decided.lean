import TiberoFdw.IdleConnections
import TiberoFdw.Savepoints

/-!
# The end of a transaction is final

When the local transaction ends, the callback decides about the work of every open remote
transaction: it is committed, rolled back, or left in a session that the module gives up. An error
of the callback turns a commit into an abort, and PostgreSQL aborts again when the abort raises
one. Once a callback has returned, nothing that comes later changes the decision: what was not
committed then is never committed, although the session may still be there at Tibero.

An execution is in one remote transaction at most (`Remote.Apart`), so it is followed through the
calls: it is `WorkIn` one entry until the callback comes to that entry, and in none afterwards.
-/

namespace TiberoFdw

/-- The execution is in no remote transaction but those of these entries. -/
structure WorkIn (keys : List ConnCacheKey) (n : Nat) (isDurable : Prop) (w : World) : Prop where
  executed : n < w.remote.executed
  work : ∀ k, w.Live k → n ∈ w.remote.work (w.conn k).hdbc → k ∈ keys
  durable : n ∈ w.remote.committed ↔ isDurable

/-- No connected entry has the execution any more. -/
def Decided (n : Nat) (w : World) : Prop := WorkIn [] n (n ∈ w.remote.committed) w

/-- `AbortTransaction`. An error of the callback starts it again; the flags say whether error
recursion has gone too far by then. Whether a callback has returned. -/
def abortTransaction (env : Environment) : List Bool → Fdw Bool
  | [] => pure false
  | inErrorRecursionTrouble :: rest =>
    (do
      Proc.modify fun w => { w with inErrorRecursionTrouble }
      tbfdwXactCallback env .abort
      pure true : Fdw Bool).onError fun _ => abortTransaction env rest

/-- The end of a local transaction, by a commit or by an abort. -/
def endTransaction (env : Environment) (commits : Bool) (troubles : List Bool) : Fdw Bool :=
  if commits then
    (do
      tbfdwXactCallback env .preCommit
      tbfdwXactCallback env .commit
      pure true : Fdw Bool).onError fun _ => abortTransaction env troubles
  else abortTransaction env troubles

section

variable {pg : Postgres} {env : Environment} {w w' : World} {key : ConnCacheKey}
  {keys : List ConnCacheKey} {n : Nat} {isDurable : Prop}

/-! ## The place of an execution -/

/-- An execution is in one place. -/
structure Remote.Apart (r : Remote) : Prop where
  sessions : ∀ h h', h ≠ h' → ∀ n ∈ r.work h, n ∉ r.work h'
  durable : ∀ h, ∀ n ∈ r.work h, n ∉ r.committed

/-- A call that moves nothing. -/
theorem Remote.Apart.of_le {r r' : Remote} (h : r.Apart)
    (hwork : ∀ h, ∀ n ∈ r'.work h, n ∈ r.work h) (hcommitted : r'.committed = r.committed) :
    r'.Apart := by
  refine ⟨fun hdbc hdbc' hne n hn hn' => ?_, fun hdbc n hn => ?_⟩
  · exact h.sessions hdbc hdbc' hne n (hwork hdbc n hn) (hwork hdbc' n hn')
  · rw [hcommitted]
    exact h.durable hdbc n (hwork hdbc n hn)

theorem Remote.mem_cleared {r : Remote} {hdbc hdbc' : Handle}
    (hn : n ∈ Remote.set r.work hdbc [] hdbc') : hdbc' ≠ hdbc ∧ n ∈ r.work hdbc' := by
  refine ⟨?_, (mem_set hn).resolve_left List.not_mem_nil⟩
  rintro rfl
  rw [set_same] at hn
  exact List.not_mem_nil hn

theorem Remote.mem_pushed {r : Remote} {hdbc hdbc' : Handle} {m : Nat}
    (hn : n ∈ Remote.set r.work hdbc (r.work hdbc ++ [m]) hdbc') :
    n ∈ r.work hdbc' ∨ n = m ∧ hdbc' = hdbc := by
  by_cases hhdbc : hdbc' = hdbc
  · subst hhdbc
    rw [set_same] at hn
    rcases List.mem_append.mp hn with hn | hn
    · exact .inl hn
    · exact .inr ⟨List.mem_singleton.mp hn, rfl⟩
  · rw [set_of_ne hhdbc] at hn
    exact .inl hn

theorem Remote.Apart.effect {r : Remote} (hnumbered : r.Numbered) (h : r.Apart) (call : SqlCall) :
    (r.effect call).Apart := by
  have hsame : ∀ r' : Remote, r'.work = r.work → r'.committed = r.committed → r'.Apart :=
    fun r' hwork => h.of_le fun _ _ hn => hwork ▸ hn
  have hcleared : ∀ hdbc hdbc' n, n ∈ Remote.set r.work hdbc [] hdbc' → n ∈ r.work hdbc' :=
    fun _ _ _ hn => (mem_cleared hn).2
  cases call with
  | allocHandle handleType => cases handleType <;> exact hsame _ rfl rfl
  | driverConnect hdbc => exact h.of_le (hcleared hdbc) rfl
  | disconnect hdbc => exact h.of_le (hcleared hdbc) rfl
  | setConnectAttr hdbc attr value =>
    rw [Remote.effect]
    split_ifs <;> exact hsame _ rfl rfl
  | execute hstmt params =>
    rw [Remote.effect]
    dsimp only
    split_ifs
    · exact hsame _ rfl rfl
    · -- the number is a new one
      refine ⟨fun hdbc hdbc' hne n hn hn' => ?_, fun hdbc n hn hn' => ?_⟩
      · rcases mem_pushed hn with hn | ⟨rfl, rfl⟩ <;>
          rcases mem_pushed hn' with hn' | ⟨hnew, hhdbc⟩
        · exact h.sessions hdbc hdbc' hne n hn hn'
        · exact Nat.ne_of_lt (hnumbered.work hdbc n hn) hnew
        · exact Nat.lt_irrefl _ (hnumbered.work hdbc' _ hn')
        · exact hne hhdbc.symm
      · rcases mem_pushed hn with hn | ⟨rfl, -⟩
        · exact h.durable hdbc n hn hn'
        · exact Nat.lt_irrefl _ (hnumbered.committed _ hn')
  | endTran hdbc completionType =>
    cases completionType with
    | commit =>
      refine ⟨fun h₁ h₂ hne n hn hn' => h.sessions h₁ h₂ hne n (hcleared hdbc h₁ n hn)
        (hcleared hdbc h₂ n hn'), fun hdbc' n hn hn' => ?_⟩
      obtain ⟨hne, hn⟩ := mem_cleared hn
      rcases List.mem_append.mp hn' with hn' | hn'
      · exact h.durable hdbc' n hn hn'
      · exact h.sessions hdbc' hdbc hne n hn hn'
    | rollback => exact h.of_le (hcleared hdbc) rfl
  | _ => exact hsame _ rfl rfl

theorem World.apart (w : World) : w.remote.Apart := by
  rw [World.remote]
  induction w.trace using List.reverseRecOn with
  | nil => exact ⟨fun _ _ _ _ hn => (List.not_mem_nil hn).elim, fun _ _ hn =>
      (List.not_mem_nil hn).elim⟩
  | append_singleton trace issued ih =>
    rw [Remote.ofTrace_concat, Remote.step]
    split_ifs
    · exact ih.effect (Remote.numbered trace) issued.call
    · exact ih

/-- What a call leaves of an execution. -/
theorem Remote.step_execution {call : SqlCall} {rc : SqlReturn} (r : Remote) (hn : n < r.executed)
    (hcall : ∀ hdbc, call = .endTran hdbc .commit → sqlSucceeded rc = true → n ∉ r.work hdbc) :
    r.executed ≤ (r.step ⟨call, rc⟩).executed ∧
      (∀ hdbc, n ∈ (r.step ⟨call, rc⟩).work hdbc → n ∈ r.work hdbc) ∧
      (n ∈ (r.step ⟨call, rc⟩).committed ↔ n ∈ r.committed) := by
  rw [Remote.step]
  split_ifs with hrc
  · cases call with
    | allocHandle handleType => cases handleType <;> exact ⟨Nat.le_refl _, fun _ => id, .rfl⟩
    | driverConnect | disconnect => exact ⟨Nat.le_refl _, fun _ hn => (mem_cleared hn).2, .rfl⟩
    | setConnectAttr =>
      rw [Remote.effect]
      split_ifs <;> exact ⟨Nat.le_refl _, fun _ => id, .rfl⟩
    | execute hstmt =>
      rw [Remote.effect]
      dsimp only
      split_ifs
      · exact ⟨Nat.le_succ _, fun _ => id, .rfl⟩
      · refine ⟨Nat.le_succ _, fun hdbc hmem => ?_, .rfl⟩
        exact (mem_pushed hmem).resolve_right fun hnew => Nat.ne_of_lt hn hnew.1
    | endTran hdbc completionType =>
      refine ⟨?_, ?_, ?_⟩
      · cases completionType <;> exact Nat.le_refl _
      · cases completionType <;> exact fun _ hn => (mem_cleared hn).2
      · cases completionType with
        | commit =>
          refine ⟨fun hmem => ?_, fun hmem => List.mem_append.mpr (.inl hmem)⟩
          exact (List.mem_append.mp hmem).resolve_right (hcall hdbc rfl hrc)
        | rollback => exact .rfl
    | _ => exact ⟨Nat.le_refl _, fun _ => id, .rfl⟩
  · exact ⟨Nat.le_refl _, fun _ => id, .rfl⟩

/-! ## Calls -/

namespace WorkIn

theorem issued (h : WorkIn keys n isDurable w) {call : SqlCall} {rc : SqlReturn}
    (hcall : ∀ hdbc, call = .endTran hdbc .commit → sqlSucceeded rc = true →
      n ∉ w.remote.work hdbc) : WorkIn keys n isDurable (w.issued env call rc) := by
  obtain ⟨hexecuted, hwork, hdurable⟩ := Remote.step_execution w.remote h.executed hcall
  constructor
  · rw [World.issued_remote]
    exact Nat.lt_of_lt_of_le h.executed hexecuted
  · intro k hk hn
    rw [World.issued_remote] at hn
    exact h.work k hk (hwork _ hn)
  · rw [World.issued_remote]
    exact hdurable.trans h.durable

/-- The same calls, and no connection that was not there. -/
theorem of_conn (h : WorkIn keys n isDurable w) (htrace : w'.trace = w.trace)
    (hconn : ∀ k, w'.Live k → w.Live k ∧ (w'.conn k).hdbc = (w.conn k).hdbc) :
    WorkIn keys n isDurable w' := by
  have hremote : w'.remote = w.remote := by rw [World.remote, World.remote, htrace]
  constructor
  · rw [hremote]
    exact h.executed
  · intro k hk hn
    obtain ⟨hlive, hhdbc⟩ := hconn k hk
    rw [hremote, hhdbc] at hn
    exact h.work k hlive hn
  · rw [hremote]
    exact h.durable

/-- Fields that say nothing about connections. -/
theorem same (h : WorkIn keys n isDurable w) (htrace : w'.trace = w.trace)
    (hconn : w'.conn = w.conn) (hkeys : w'.keys = w.keys) : WorkIn keys n isDurable w' := by
  refine h.of_conn htrace fun k hk => ?_
  rw [World.Live, hconn, hkeys] at hk
  rw [hconn]
  exact ⟨hk, rfl⟩

theorem setConn (h : WorkIn keys n isDurable w) {f : ConnCacheEntry → ConnCacheEntry}
    (hf : (f (w.conn key)).connected = true →
      (w.conn key).connected = true ∧ (f (w.conn key)).hdbc = (w.conn key).hdbc) :
    WorkIn keys n isDurable (w.setConn key f) := h.of_conn rfl fun _ => World.setConn_live hf

theorem entered (h : WorkIn keys n isDurable w) (env : Environment) (key : ConnCacheKey) :
    WorkIn keys n isDurable (w.entered env key) := by
  refine h.of_conn World.entered_trace fun k hk => ?_
  obtain ⟨hlive, hsame⟩ := World.entered_live hk
  exact ⟨hlive, by rw [hsame]⟩

theorem of_nowhere (h : WorkIn [] n isDurable w) : Decided n w := ⟨h.executed, h.work, .rfl⟩

/-- The entry has the execution no more. -/
theorem decided (h : WorkIn [key] n isDurable w)
    (hlost : w.Live key → n ∉ w.remote.work (w.conn key).hdbc) : Decided n w := by
  refine ⟨h.executed, fun k hk hn => ?_, .rfl⟩
  obtain rfl := List.mem_singleton.mp (h.work k hk hn)
  exact (hlost hk hn).elim

end WorkIn

/-! ## Connecting and disconnecting -/

theorem issue_workIn {call : SqlCall} (hcall : ∀ hdbc, call ≠ .endTran hdbc .commit) :
    Proc.Keeps (WorkIn keys n isDurable) (issue env call) :=
  fun _ h => h.issued fun hdbc heq => (hcall hdbc heq).elim

theorem dropConnection_workIn :
    Proc.Keeps (WorkIn keys n isDurable) (dropConnection env key) := by
  refine .read_bind fun w => .when (.bind (.modify fun w h => h.setConn (by rintro ⟨⟩)) fun _ => ?_)
  refine .bind (issue_workIn (by rintro _ ⟨⟩)) fun _ => ?_
  refine .bind (issue_workIn (by rintro _ ⟨⟩)) fun _ => ?_
  exact .bind (issue_workIn (by rintro _ ⟨⟩)) fun _ => .pure _

variable (env key keys n isDurable) in
theorem connectedRules_workIn : ConnectedRules env key (WorkIn keys n isDurable) where
  setConn w f hf h := h.setConn fun hc => ⟨(hf.connected _).symm.trans hc, hf.hdbc _⟩
  issued w call rc hcall h := by
    refine h.issued ?_
    rintro hdbc rfl
    exact hcall.elim
  report := dropConnection_workIn

theorem tbCall_workIn {call : SqlCall} (hcall : ∀ hdbc, call ≠ .endTran hdbc .commit) :
    Proc.Keeps (WorkIn keys n isDurable) (tbCall env key call) :=
  .bind (issue_workIn hcall) fun _ =>
    (connectedRules_workIn env key keys n isDurable).checkReturn _ _

theorem disconnectTbServer_workIn :
    Proc.Keeps (WorkIn keys n isDurable) (disconnectTbServer env key) := by
  refine .read_bind fun w => .when ?_
  refine .bind (.read_bind fun w => tbCall_workIn (by rintro _ ⟨⟩)) fun _ => ?_
  refine .bind (tbCall_workIn (by rintro _ ⟨⟩)) fun _ => ?_
  exact .bind (tbCall_workIn (by rintro _ ⟨⟩)) fun _ => .modify fun w h =>
    h.setConn (by rintro ⟨⟩)

/-- While the entry has no connection. -/
def WorkInUnconnected (key : ConnCacheKey) (keys : List ConnCacheKey) (n : Nat) (isDurable : Prop)
    (w : World) : Prop :=
  WorkIn keys n isDurable w ∧ (w.conn key).connected = false

theorem checkReturn_unconnected (sqlerrcode : SqlState) (rc : SqlReturn) :
    Proc.Keeps (WorkInUnconnected key keys n isDurable) (checkReturn env key sqlerrcode rc) := by
  have hdrop : Proc.Keeps (WorkInUnconnected key keys n isDurable) (dropConnection env key) := by
    rintro w ⟨h, hno⟩
    rw [dropConnection_eq, if_neg (by rw [hno]; exact Bool.false_ne_true)]
    exact ⟨h, hno⟩
  rw [checkReturn]
  split_ifs
  · exact .pure _
  · exact .bind hdrop fun _ => .raise _

/-- A handle is stored in the entry. -/
theorem tbSqlAllocHandle_unconnected {handleType : HandleType} {inputHandle : Handle}
    {f : Handle → ConnCacheEntry → ConnCacheEntry}
    (hf : ∀ handle c, (f handle c).connected = c.connected) :
    Proc.Keeps (WorkInUnconnected key keys n isDurable) (tbSqlAllocHandle env key handleType
      inputHandle fun handle => modifyConn key (f handle)) := by
  have halloc : Proc.Keeps (WorkInUnconnected key keys n isDurable)
      (sqlAllocHandle env handleType inputHandle) := fun w h =>
    ⟨h.1.issued (by rintro _ ⟨⟩), h.2⟩
  refine .bind halloc fun r => .bind (.modify fun w h => ⟨h.1.setConn fun hc => ?_, ?_⟩) fun _ =>
    .bind (checkReturn_unconnected _ _) fun _ => .pure _
  · rw [hf, h.2] at hc
    cases hc
  · rw [World.setConn_self, hf]
    exact h.2

/-- The session starts without work. -/
theorem tbSqlDriverConnect_workIn (connStr : Text) :
    Proc.Triple (WorkInUnconnected key keys n isDurable) (tbSqlDriverConnect env key connStr)
      (fun _ w => WorkInUnconnected key keys n isDurable w ∧ n ∉ w.remote.work (w.conn key).hdbc)
      fun _ => WorkIn keys n isDurable := by
  rintro w ⟨h, hno⟩
  have hissued : WorkInUnconnected key keys n isDurable
      (w.called env (.driverConnect (w.conn key).hdbc connStr)) :=
    ⟨h.issued (by rintro _ ⟨⟩), hno⟩
  rw [tbSqlDriverConnect, Proc.read_bind_run, Proc.bind_of_ok (issue_run _)]
  by_cases hrc : sqlSucceeded (w.nextRc env) = true
  · rw [checkReturn, if_pos hrc]
    refine ⟨hissued, ?_⟩
    change n ∉ (w.called env (.driverConnect (w.conn key).hdbc connStr)).remote.work
      (w.conn key).hdbc
    rw [World.called_remote hrc]
    exact fun hn => (Remote.mem_cleared hn).1 rfl
  · rw [checkReturn_fails_run hrc]
    exact dropConnection_workIn.next hissued.1

theorem connectTbServer_workIn (params : ConnParams) :
    Proc.Triple (WorkInUnconnected key keys n isDurable) (connectTbServer env key params)
      (fun _ => WorkIn keys n isDurable) fun _ => WorkIn keys n isDurable := by
  have hkeeps : ∀ {α : Type} {m : Fdw α}, Proc.Keeps (WorkInUnconnected key keys n isDurable) m →
      Proc.Triple (WorkInUnconnected key keys n isDurable) m
        (fun _ => WorkInUnconnected key keys n isDurable) fun _ => WorkIn keys n isDurable :=
    fun hm => .weaken hm (fun _ h => h) (fun _ _ h => h) fun _ _ h => h.1
  have hattr : Proc.Keeps (WorkInUnconnected key keys n isDurable)
      (tbSqlSetEnvAttr env key SQL_ATTR_ODBC_VERSION SQL_OV_ODBC3) :=
    .read_bind fun w => .bind (fun w h => ⟨h.1.issued (by rintro _ ⟨⟩), h.2⟩) fun _ =>
      checkReturn_unconnected _ _
  refine .bind (hkeeps (tbSqlAllocHandle_unconnected fun _ _ => rfl)) fun henv => ?_
  refine .bind (hkeeps hattr) fun _ => ?_
  refine .bind (hkeeps (tbSqlAllocHandle_unconnected fun _ _ => rfl)) fun _ => ?_
  refine .bind (tbSqlDriverConnect_workIn _) fun _ => .modify ?_
  rintro w ⟨⟨h, -⟩, hfree⟩
  refine ⟨h.executed, fun k hk hn => ?_, h.durable⟩
  by_cases hne : k = key
  · subst hne
    rw [World.setConn_self] at hn
    exact (hfree hn).elim
  · rw [World.Live, World.setConn_of_ne hne] at hk
    rw [World.setConn_of_ne hne] at hn
    exact h.work k hk hn

variable (key keys n isDurable) in
theorem lookupRules_workIn : LookupRules key (WorkIn keys n isDurable) where
  setConn _ _ hf h := h.setConn fun hc => ⟨(hf.connected _).symm.trans hc, hf.hdbc _⟩
  lookup _ _ h := h.same rfl rfl rfl
  invalidated _ _ _ h := h.of_conn rfl fun _ => World.invalidated_live

variable (pg env key keys n isDurable) in
theorem sessionRules_workIn (user : UserMapping) :
    SessionRules pg env key user (WorkIn keys n isDurable) where
  toConnectedRules := connectedRules_workIn env key keys n isDurable
  disconnect := disconnectTbServer_workIn
  makeTbConnection :=
    (lookupRules_workIn key keys n isDurable).makeTbConnection connectTbServer_workIn user

theorem getTbStatement_workIn (user : UserMapping) (tbStmt : TbStatement) (useFbQuery : Bool) :
    Proc.Keeps (WorkIn keys n isDurable) (getTbStatement pg env user tbStmt useFbQuery) := by
  refine .of_next fun w h => ?_
  have hsetTsn : ∀ w tsn, WorkIn keys n isDurable w →
      WorkIn keys n isDurable (w.setConn user.umid fun c => { c with tsn := tsn }) :=
    fun _ _ h => h.setConn fun hc => ⟨hc, rfl⟩
  exact (sessionRules_workIn pg env user.umid keys n isDurable user).getTbStatement_next hsetTsn
    (h.entered env user.umid) tbStmt useFbQuery

/-! ## The end of a remote transaction -/

/-- The execution is in other entries only, or in none. -/
theorem endRemoteXact_workIn (completionType : CompletionType) (h : WorkIn keys n isDurable w)
    (hmem : key ∈ w.keys) (hkey : key ∉ keys) :
    WorkIn keys n isDurable (endRemoteXact env key completionType w).next := by
  rcases hconn : (w.conn key).connected with _ | _
  · rw [endRemoteXact, Proc.read_bind_run, hconn]
    exact h
  have hcalled : WorkIn keys n isDurable
      (w.called env (.endTran (w.conn key).hdbc completionType)) := by
    refine h.issued ?_
    rintro hdbc ⟨⟩ -
    exact fun hn => hkey (h.work key ⟨hmem, hconn⟩ hn)
  by_cases hrc : sqlSucceeded (w.nextRc env) = true
  · rw [endRemoteXact_completes hconn hrc]
    exact (Proc.Keeps.when disconnectTbServer_workIn).next (hcalled.setConn fun hc => ⟨hc, rfl⟩)
  · rw [endRemoteXact_fails hconn hrc]
    exact dropConnection_workIn.next hcalled

/-- Ending the transaction that the execution is in decides about it. -/
theorem endRemoteXact_decides (completionType : CompletionType) (h : WorkIn [key] n isDurable w)
    (hconn : (w.conn key).connected = true) :
    Decided n (endRemoteXact env key completionType w).next := by
  by_cases hrc : sqlSucceeded (w.nextRc env) = true
  · -- the work of the session is gone, and no other session has gained any
    have hcalled : Decided n (w.called env (.endTran (w.conn key).hdbc completionType)) := by
      have hremote := @World.called_remote env w (.endTran (w.conn key).hdbc completionType) hrc
      refine ⟨?_, fun k hk hn => ?_, .rfl⟩
      · rw [hremote]
        cases completionType <;> exact h.executed
      · have hcleared : (w.conn k).hdbc ≠ (w.conn key).hdbc ∧
            n ∈ w.remote.work (w.conn k).hdbc := by
          rw [hremote] at hn
          cases completionType <;> exact Remote.mem_cleared hn
        obtain rfl := List.mem_singleton.mp (h.work k hk hcleared.2)
        exact (hcleared.1 rfl).elim
    rw [endRemoteXact_completes hconn hrc]
    exact .of_nowhere ((Proc.Keeps.when disconnectTbServer_workIn).next
      (hcalled.setConn fun hc => ⟨hc, rfl⟩))
  · -- the session is given up
    have hcalled : WorkIn [key] n isDurable
        (w.called env (.endTran (w.conn key).hdbc completionType)) :=
      h.issued fun _ _ hok => (hrc hok).elim
    rw [endRemoteXact_fails hconn hrc]
    refine (dropConnection_workIn.next hcalled).decided fun hlive => ?_
    obtain ⟨w', hrun, -, hlost⟩ := dropConnection_run env
      (w.called env (.endTran (w.conn key).hdbc completionType)) key
    rw [hrun, World.Live, Outcome.next_ok, hlost] at hlive
    cases hlive.2

/-! ## The callback -/

/-- The callback has still to come to the entry that the execution is in. -/
structure Pending (key : ConnCacheKey) (allKeys : List ConnCacheKey) (n : Nat) (w : World) :
    Prop where
  work : WorkIn [key] n (n ∈ w.remote.committed) w
  isOpen : (w.conn key).isOpen = true
  xactGotConnection : w.xactGotConnection = true
  keys : w.keys = allKeys

theorem Decided.keeps {α : Type} {m : Fdw α}
    (hm : ∀ isDurable, Proc.Keeps (WorkIn [] n isDurable) m) : Proc.Keeps (Decided n) m :=
  .of_next fun _ h => .of_nowhere ((hm _).next h)

theorem xactCallbackEntry_workIn (event : XactEvent) (h : WorkIn keys n isDurable w)
    (hmem : key ∈ w.keys) (hkey : key ∉ keys) :
    WorkIn keys n isDurable (xactCallbackEntry env event key w).next := by
  rw [xactCallbackEntry, Proc.read_bind_run]
  rcases (w.conn key).beginRemoteXact with _ | _
  · exact h
  rw [Proc.when_true]
  cases event with
  | preCommit | parallelPreCommit => exact endRemoteXact_workIn .commit h hmem hkey
  | prePrepare | commit | parallelCommit | prepare => exact h
  | abort | parallelAbort =>
    dsimp only
    split_ifs
    · exact h.setConn (f := fun c => { c with connected := false }) fun hc => by cases hc
    · exact endRemoteXact_workIn .rollback h hmem hkey

/-- The callback comes to the entry. -/
theorem xactCallbackEntry_decides {event : XactEvent} (hends : event.ends = true)
    (h : WorkIn [key] n isDurable w) (hopen : (w.conn key).isOpen = true) :
    Decided n (xactCallbackEntry env event key w).next := by
  obtain ⟨hconn, hbegun⟩ := ConnCacheEntry.isOpen_iff.mp hopen
  rw [xactCallbackEntry, Proc.read_bind_run, hbegun, Proc.when_true]
  cases event with
  | preCommit | parallelPreCommit => exact endRemoteXact_decides .commit h hconn
  | prePrepare | commit | parallelCommit | prepare => cases hends
  | abort | parallelAbort =>
    dsimp only
    split_ifs
    · -- in error recursion the session is given up without a call
      have hset : WorkIn [key] n isDurable (w.setConn key fun c => { c with connected := false }) :=
        h.setConn (by rintro ⟨⟩)
      refine hset.decided fun hlive => ?_
      rw [World.Live, World.setConn_self] at hlive
      cases hlive.2
    · exact endRemoteXact_decides .rollback h hconn

/-- Whatever it does, it does to its own entry. -/
theorem xactCallbackEntry_confined (event : XactEvent) :
    Confined key w (xactCallbackEntry env event key w).next := by
  have hend : ∀ completionType, Confined key w (endRemoteXact env key completionType w).next := by
    intro completionType
    have hconfines := @endRemoteXact_confines env w key completionType
    rcases hrun : endRemoteXact env key completionType w with ⟨u, w'⟩ | ⟨e, w'⟩
    · exact hconfines.apply_ok hrun
    · exact (hconfines.apply_raise hrun).1
  rw [xactCallbackEntry, Proc.read_bind_run]
  rcases (w.conn key).beginRemoteXact with _ | _
  · exact .refl key w
  rw [Proc.when_true]
  cases event with
  | preCommit | parallelPreCommit => exact hend .commit
  | prePrepare | commit | parallelCommit | prepare => exact .refl key w
  | abort | parallelAbort =>
    dsimp only
    split_ifs
    · exact Confined.setConn (f := fun c => { c with connected := false }) fun hc => by cases hc
    · exact hend .rollback

/-- The callback comes to another entry. -/
theorem xactCallbackEntry_pending (event : XactEvent) {k : ConnCacheKey} (hne : k ≠ key)
    (hk : k ∈ keys) : Proc.Keeps (Pending key keys n) (xactCallbackEntry env event k) := by
  refine .of_next fun w h => ?_
  have hconfined := @xactCallbackEntry_confined env w k event
  have hwork : WorkIn [key] n (n ∈ w.remote.committed) (xactCallbackEntry env event k w).next :=
    xactCallbackEntry_workIn event h.work (h.keys.symm ▸ hk) fun hmem =>
      hne (List.mem_singleton.mp hmem)
  refine ⟨⟨hwork.executed, hwork.work, .rfl⟩, ?_, ?_, hconfined.keys.trans h.keys⟩
  · rw [(hconfined.others key hne.symm).isOpen, h.isOpen]
  · rw [hconfined.xactGotConnection, h.xactGotConnection]

/-- What is decided stays so while the callback goes on. -/
theorem xactCallbackLoop_workIn (event : XactEvent) {allKeys : List ConnCacheKey}
    (hkeys : ∀ k ∈ keys, k ∈ allKeys) :
    Proc.Keeps (fun w => WorkIn [] n isDurable w ∧ w.keys = allKeys)
      (Proc.forEach keys (xactCallbackEntry env event)) := by
  refine .forEach fun k hk => .of_next ?_
  rintro w ⟨h, hall⟩
  exact ⟨xactCallbackEntry_workIn event h (hall.symm ▸ hkeys k hk) List.not_mem_nil,
    (xactCallbackEntry_confined event).keys.trans hall⟩

/-- **The loop decides about the execution**, unless an error leaves it before. By induction on
the entries: the one that has the execution decides, and the others keep what it has decided. -/
theorem xactCallbackLoop_decides {event : XactEvent} (hends : event.ends = true)
    {allKeys : List ConnCacheKey} (hkeys : ∀ k ∈ keys, k ∈ allKeys) (hkey : key ∈ keys) :
    Proc.Triple (Pending key allKeys n) (Proc.forEach keys (xactCallbackEntry env event))
      (fun _ => Decided n) fun _ w => Decided n w ∨ Pending key allKeys n w := by
  induction keys with
  | nil => exact (List.not_mem_nil hkey).elim
  | cons k rest ih =>
    obtain ⟨hk, hrest⟩ := List.forall_mem_cons.mp hkeys
    by_cases hne : k = key
    · subst hne
      rintro w h
      have hdecided : Decided n (xactCallbackEntry env event k w).next :=
        xactCallbackEntry_decides hends h.work h.isOpen
      have hall : (xactCallbackEntry env event k w).next.keys = allKeys :=
        (xactCallbackEntry_confined event).keys.trans h.keys
      rw [Proc.forEach_cons]
      rcases hrun : xactCallbackEntry env event k w with ⟨u, w₁⟩ | ⟨e, w₁⟩ <;>
        rw [hrun] at hdecided hall
      · rw [Proc.bind_of_ok hrun]
        refine (xactCallbackLoop_workIn event hrest).weaken (fun _ h => h)
          (fun _ _ h => .of_nowhere h.1) (fun _ _ h => .inl (.of_nowhere h.1)) w₁ ⟨hdecided, hall⟩
      · rw [Proc.bind_of_raise hrun]
        exact .inl hdecided
    · refine .bind ((xactCallbackEntry_pending event hne hk).weaken (fun _ h => h)
        (fun _ _ h => h) fun _ _ h => .inr h) fun _ => ?_
      exact ih hrest ((List.mem_cons.mp hkey).resolve_left fun heq => hne heq.symm)

theorem tbfdwXactCallback_workIn (event : XactEvent) :
    Proc.Keeps (WorkIn [] n isDurable) (tbfdwXactCallback env event) := by
  rintro w h
  rw [tbfdwXactCallback, Proc.read_bind_run]
  rcases w.xactGotConnection with _ | _
  · exact h
  have hrun : Proc.Triple (fun w₁ => WorkIn [] n isDurable w₁ ∧ w₁.keys = w.keys)
      (do
        setSleepOnSigOn
        Proc.forEach w.keys (xactCallbackEntry env event)
        Proc.modify fun w => { w with xactGotConnection := false }
        setSleepOnSigOff : Fdw Unit)
      (fun _ => WorkIn [] n isDurable) fun _ => WorkIn [] n isDurable := by
    have hon : Proc.Triple (fun w₁ => WorkIn [] n isDurable w₁ ∧ w₁.keys = w.keys) setSleepOnSigOn
        (fun _ w₁ => WorkIn [] n isDurable w₁ ∧ w₁.keys = w.keys) fun _ => WorkIn [] n isDurable :=
      .modify fun w₁ h => ⟨h.1.same rfl rfl rfl, h.2⟩
    have hloop : Proc.Keeps (fun w₁ => WorkIn [] n isDurable w₁ ∧ w₁.keys = w.keys)
        (Proc.forEach w.keys (xactCallbackEntry env event)) :=
      xactCallbackLoop_workIn event fun _ hk => hk
    refine .bind hon fun _ => .bind (hloop.weaken (fun _ h => h) (fun _ _ h => h.1)
      fun _ _ h => h.1) fun _ => ?_
    refine Proc.Triple.bind (Q := fun _ => WorkIn [] n isDurable)
      (.modify fun w h => h.same rfl rfl rfl) fun _ => ?_
    exact .modify fun w h => h.same rfl rfl rfl
  exact hrun w ⟨h, rfl⟩

/-- **The callback decides about the execution**, unless it leaves by an error before. -/
theorem tbfdwXactCallback_decides {event : XactEvent} (hends : event.ends = true)
    (hkey : key ∈ keys) :
    Proc.Triple (Pending key keys n) (tbfdwXactCallback env event) (fun _ => Decided n)
      fun _ w => Decided n w ∨ Pending key keys n w := by
  rintro w h
  rw [tbfdwXactCallback, Proc.read_bind_run, h.xactGotConnection, h.keys]
  have hrun : Proc.Triple (Pending key keys n)
      (do
        setSleepOnSigOn
        Proc.forEach keys (xactCallbackEntry env event)
        Proc.modify fun w => { w with xactGotConnection := false }
        setSleepOnSigOff : Fdw Unit)
      (fun _ => Decided n) fun _ w => Decided n w ∨ Pending key keys n w := by
    have hon : Proc.Triple (Pending key keys n) setSleepOnSigOn (fun _ => Pending key keys n)
        fun _ w => Decided n w ∨ Pending key keys n w :=
      .modify fun w h => ⟨h.work.same rfl rfl rfl, h.isOpen, h.xactGotConnection, h.keys⟩
    refine .bind hon fun _ => ?_
    refine .bind (xactCallbackLoop_decides hends (fun _ hk => hk) hkey) fun _ => ?_
    refine Proc.Triple.bind (Q := fun _ => Decided n)
      (.modify fun w h => WorkIn.same h rfl rfl rfl) fun _ => ?_
    exact .modify fun w h => WorkIn.same h rfl rfl rfl
  exact hrun w h

/-! ## The end of the transaction -/

/-- PostgreSQL aborts until the callback returns. -/
theorem abortTransaction_decides (hkey : key ∈ keys) (troubles : List Bool) :
    Proc.Triple (fun w => Decided n w ∨ Pending key keys n w) (abortTransaction env troubles)
      (fun returned w => returned = true → Decided n w) fun _ _ => False := by
  induction troubles with
  | nil => exact .pure fun w h hreturned => (Bool.false_ne_true hreturned).elim
  | cons inErrorRecursionTrouble rest ih =>
    have htrouble : Proc.Triple (fun w => Decided n w ∨ Pending key keys n w)
        (Proc.modify fun w => { w with inErrorRecursionTrouble } : Fdw Unit)
        (fun _ w => Decided n w ∨ Pending key keys n w)
        fun _ w => Decided n w ∨ Pending key keys n w := by
      refine .modify fun w h => h.imp (fun h => ?_) fun h => ?_
      · exact WorkIn.same h rfl rfl rfl
      · exact ⟨h.work.same rfl rfl rfl, h.isOpen, h.xactGotConnection, h.keys⟩
    have hcallback : Proc.Triple (fun w => Decided n w ∨ Pending key keys n w)
        (tbfdwXactCallback env .abort) (fun _ => Decided n)
        fun _ w => Decided n w ∨ Pending key keys n w := by
      rintro w (h | h)
      · exact (Decided.keeps fun _ => tbfdwXactCallback_workIn .abort).weaken (fun _ h => h)
          (fun _ _ h => h) (fun _ _ h => .inl h) w h
      · exact tbfdwXactCallback_decides rfl hkey w h
    refine .onError (.bind htrouble fun _ => .bind hcallback fun _ => ?_) fun _ => ih
    exact .pure fun _ h _ => h

theorem endTransaction_decides (hkey : key ∈ keys) (commits : Bool) (troubles : List Bool) :
    Proc.Triple (Pending key keys n) (endTransaction env commits troubles)
      (fun returned w => returned = true → Decided n w) fun _ _ => False := by
  have habort := (@abortTransaction_decides env key keys n hkey troubles).strengthen_pre
    fun _ h => .inr h
  rw [endTransaction]
  split_ifs
  · refine .onError (.bind (tbfdwXactCallback_decides rfl hkey) fun _ => ?_) fun _ =>
      abortTransaction_decides hkey troubles
    refine Proc.Triple.bind (Q := fun _ => Decided n) ?_ fun _ => .pure fun _ h _ => h
    exact (Decided.keeps fun _ => tbfdwXactCallback_workIn .commit).weaken (fun _ h => h)
      (fun _ _ h => h) fun _ _ h => .inl h
  · exact habort

/-! ## Runs -/

variable (pg env n isDurable) in
theorem callbackRules_workIn :
    CallbackRules pg env (WorkIn [] n isDurable) fun _ _ => WorkIn [] n isDurable where
  inv _ _ _ h := h
  issued hstmt key w call rc hcall h :=
    h.issued fun hdbc heq => ((SqlCall.of_hstmt hcall).2.2 hdbc heq).elim
  report _ _ := dropConnection_workIn
  sleepUsing _ _ _ _ h := h.same rfl rfl rfl
  sleep _ _ h := h.same rfl rfl rfl
  drop _ := tbCall_workIn (by rintro _ ⟨⟩)
  trouble _ _ h := h.same rfl rfl rfl
  getTbStatement := getTbStatement_workIn
  getForeignServer := (lookupRules_workIn 0 [] n isDurable).getForeignServer
  xactCallback := tbfdwXactCallback_workIn
  invalCallback cacheid hashvalue := fun w h =>
    (lookupRules_workIn 0 [] n isDurable).invalidated w cacheid hashvalue h

theorem runBackend_workIn (ops : List BackendOp) (b : Backend) :
    Proc.Keeps (WorkIn [] n isDurable) (runBackend pg env ops b) := by
  refine .of_next fun w h => ?_
  obtain ⟨b', w', hrun⟩ := runBackend_returns pg env ops b w
  rw [hrun]
  refine Proc.fold_ok (I := fun _ => WorkIn [] n isDurable) ?_
    (.of_forall (p := fun _ => True) (fun _ _ => trivial) _ _) h hrun
  intro op b w b' w' _ h hstep
  rcases hop : op.setsMoment with _ | _
  · exact ((callbackRules_workIn pg env n isDurable).keeps_step hop b).apply_ok h hstep
  · cases op with
    | startTransaction | startStatement =>
      cases hstep
      exact h.same rfl rfl rfl
    | _ => cases hop

/-- The work of an entry that is open is pending. -/
theorem Pending.of_run {ops : List BackendOp} {w₀ : World} (hkeys : w₀.keys = [])
    (htrace : w₀.trace = []) {b : Backend}
    (hrun : runBackend pg env ops Backend.start w₀ = .ok b w) (hgot : w.xactGotConnection = true)
    (hkey : key ∈ w.openKeys w.keys) (hn : n ∈ w.remote.work (w.conn key).hdbc) :
    Pending key w.keys n w := by
  have hsound : SessionsSound (OwnString env ops) b.Uses w := .of_runBackend hkeys htrace hrun
  obtain ⟨hmem, hopen⟩ := List.mem_filter.mp hkey
  refine ⟨⟨w.numbered.work _ n hn, fun k hk hnk => ?_, .rfl⟩, hopen, hgot, rfl⟩
  by_contra hne
  have hhdbc : (w.conn k).hdbc ≠ (w.conn key).hdbc := fun heq => hne (List.mem_singleton.mpr
    (hsound.distinct k key hk ⟨hmem, (ConnCacheEntry.isOpen_iff.mp hopen).1⟩ heq))
  exact w.apart.sessions _ _ hhdbc n hnk hn

/-- **The end of a transaction is final.** In every run, whatever fails in it: when a local
transaction that has asked for a connection has ended, by a commit or an abort whose callback
returned in the end, no later call makes an insert durable that was executed in one of its remote
transactions and is not durable yet, and none takes back one that is. -/
theorem transactionEnd_final {ops ops' : List BackendOp} {w₀ w'' : World} (hkeys : w₀.keys = [])
    (htrace : w₀.trace = []) {b b' b'' : Backend}
    (hrun : runBackend pg env ops Backend.start w₀ = .ok b w) (hgot : w.xactGotConnection = true)
    {commits : Bool} {troubles : List Bool}
    (hend : endTransaction env commits troubles w = .ok true w')
    (hrun' : runBackend pg env ops' b' w' = .ok b'' w'') {n : Nat}
    (hn : n ∈ w.workOf (w.openKeys w.keys)) :
    n ∈ w''.remote.committed ↔ n ∈ w'.remote.committed := by
  obtain ⟨key, hkey, hn⟩ := List.mem_flatMap.mp hn
  have hpending : Pending key w.keys n w := .of_run hkeys htrace hrun hgot hkey hn
  have hdecided : Decided n w' :=
    (endTransaction_decides (List.mem_filter.mp hkey).1 commits troubles).apply_ok hpending hend rfl
  have hlater : WorkIn [] n (n ∈ w'.remote.committed) w'' :=
    (runBackend_workIn ops' b').apply_ok hdecided hrun'
  exact hlater.durable

end

/-- A row is inserted through the second mapping again, and committed. -/
def insertsAgain : List BackendOp :=
  [.beginModify textTable ⟨2, 7, []⟩ ⟨"INSERT INTO t(c) VALUES (?)".toList, [1]⟩,
    .insert 2 (textSlot "z"), .xactEvent .preCommit false]

/-- The commit fails at the second connection. The next transaction commits its own row and not the
one that was given up. -/
theorem givenUp_final :
    ∃ b w w' b'' w'', runBackend .small .failsToCommit twoMappingsInsert Backend.start World.start =
        .ok b w ∧ endTransaction .failsToCommit true [false] w = .ok true w' ∧
      runBackend .small .failsToCommit insertsAgain b w' = .ok b'' w'' ∧
      w''.remote.committed = [1, 2] ∧
      ∀ n ∈ w.workOf (w.openKeys w.keys), (n ∈ w''.remote.committed ↔ n ∈ w'.remote.committed) := by
  obtain ⟨b, w, hrun, htest⟩ : ∃ b w, runBackend .small .failsToCommit twoMappingsInsert
      Backend.start World.start = .ok b w ∧ (w.xactGotConnection &&
        (endTransaction .failsToCommit true [false] w).okAnd fun returned w' => returned &&
          (runBackend .small .failsToCommit insertsAgain b w').okAnd
            fun _ w'' => w''.remote.committed == [1, 2]) = true :=
    Outcome.exists_of_okAnd (by decide +kernel)
  obtain ⟨hgot, hend⟩ := Bool.and_eq_true_iff.mp htest
  obtain ⟨returned, w', hend, hlater⟩ := Outcome.exists_of_okAnd hend
  obtain ⟨rfl, hlater⟩ := Bool.and_eq_true_iff.mp hlater
  obtain ⟨b'', w'', hrun', hcommitted⟩ := Outcome.exists_of_okAnd hlater
  rw [beq_iff_eq] at hcommitted
  exact ⟨b, w, w', b'', w'', hrun, hend, hrun', hcommitted,
    fun n hn => transactionEnd_final rfl rfl hrun hgot hend hrun' hn⟩

end TiberoFdw
