import TiberoFdw.Remote
import TiberoFdw.Connection

/-!
# What the functions of the connection cache do

Each function either returns, and then its calls were issued and succeeded, or
raises an error. The lemmas here invert a normal return, function by function;
they are all that the modules on whole transactions use.
-/

namespace TiberoFdw

/-! ## One call -/

/-- The world after the next call. -/
def World.called (w : World) (env : Environment) (call : SqlCall) : World :=
  w.issued env call (w.nextRc env)

section

variable {env : Environment} {w w' : World} {key : ConnCacheKey}

@[simp] theorem World.issued_conn (call : SqlCall) (rc : SqlReturn) :
    (w.issued env call rc).conn = w.conn := rfl

@[simp] theorem World.issued_keys (call : SqlCall) (rc : SqlReturn) :
    (w.issued env call rc).keys = w.keys := rfl

@[simp] theorem World.issued_isolation (call : SqlCall) (rc : SqlReturn) :
    (w.issued env call rc).isolationUsesXactSnapshot = w.isolationUsesXactSnapshot := rfl

@[simp] theorem World.issued_xactGotConnection (call : SqlCall) (rc : SqlReturn) :
    (w.issued env call rc).xactGotConnection = w.xactGotConnection := rfl

@[simp] theorem World.issued_statementStart (call : SqlCall) (rc : SqlReturn) :
    (w.issued env call rc).statementStart = w.statementStart := rfl

@[simp] theorem World.issued_length (call : SqlCall) (rc : SqlReturn) :
    (w.issued env call rc).trace.length = w.trace.length + 1 := by
  simp [World.issued]

@[simp] theorem World.called_conn (call : SqlCall) : (w.called env call).conn = w.conn := rfl

@[simp] theorem World.called_keys (call : SqlCall) : (w.called env call).keys = w.keys := rfl

@[simp] theorem World.called_isolation (call : SqlCall) :
    (w.called env call).isolationUsesXactSnapshot = w.isolationUsesXactSnapshot := rfl

@[simp] theorem World.called_xactGotConnection (call : SqlCall) :
    (w.called env call).xactGotConnection = w.xactGotConnection := rfl

@[simp] theorem World.called_inErrorRecursionTrouble (call : SqlCall) :
    (w.called env call).inErrorRecursionTrouble = w.inErrorRecursionTrouble := rfl

@[simp] theorem World.called_statementStart (call : SqlCall) :
    (w.called env call).statementStart = w.statementStart := rfl

@[simp] theorem World.called_length (call : SqlCall) :
    (w.called env call).trace.length = w.trace.length + 1 := by
  simp [World.called, World.issued]

theorem World.issued_remote (call : SqlCall) (rc : SqlReturn) :
    (w.issued env call rc).remote = w.remote.step ⟨call, rc⟩ :=
  Remote.ofTrace_concat ..

/-- The remote side after a successful call. -/
theorem World.called_remote {call : SqlCall} (hrc : sqlSucceeded (w.nextRc env) = true) :
    (w.called env call).remote = w.remote.effect call := by
  rw [World.called, World.issued_remote, Remote.step, if_pos hrc]

theorem issue_run (call : SqlCall) :
    issue env call w = .ok (w.nextRc env) (w.called env call) := rfl

/-- A call that changes the bindings of a statement. -/
def SqlCall.rebinds : SqlCall → Bool
  | .allocHandle .stmt _ _ => true
  | .bindParameter _ _ _ _ => true
  | _ => false

theorem setStmt_params {stmts : Handle → DriverStmt} {hstmt : Handle} {f : DriverStmt → DriverStmt}
    (hf : ∀ s, (f s).params = s.params) (h : Handle) :
    (setStmt stmts hstmt f h).params = (stmts h).params := by
  rw [setStmt]
  split_ifs
  · exact hf _
  · rfl

theorem SqlCall.effect_params {call : SqlCall} (hcall : call.rebinds = false) (n : Nat)
    (stmts : Handle → DriverStmt) (h : Handle) :
    (call.effect env n stmts h).params = (stmts h).params := by
  cases call with
  | allocHandle handleType =>
    cases handleType with
    | stmt => cases hcall
    | env | dbc => rfl
  | bindParameter => cases hcall
  | execDirect | prepare | execute | fetch =>
    rw [SqlCall.effect]
    exact setStmt_params (by intro s; rfl) h
  | setStmtAttr hstmt attr value =>
    rw [SqlCall.effect]
    split_ifs
    · exact setStmt_params (by intro s; rfl) h
    · rfl
  | freeStmt hstmt option =>
    cases option with
    | close =>
      rw [SqlCall.effect]
      exact setStmt_params (by intro s; rfl) h
    | drop => rfl
  | _ => rfl

/-- The bindings of a statement stay as they are. -/
theorem World.issued_params {call : SqlCall} (hcall : call.rebinds = false) (rc : SqlReturn)
    (h : Handle) : ((w.issued env call rc).stmts h).params = (w.stmts h).params := by
  change ((if sqlSucceeded rc then _ else _ : Handle → DriverStmt) h).params = _
  split_ifs
  · exact SqlCall.effect_params hcall _ _ h
  · rfl

theorem World.called_params {call : SqlCall} (hcall : call.rebinds = false) (h : Handle) :
    ((w.called env call).stmts h).params = (w.stmts h).params :=
  World.issued_params hcall _ h

/-- The driver's statements after a successful call. -/
theorem World.called_stmts {call : SqlCall} (hrc : sqlSucceeded (w.nextRc env) = true) :
    (w.called env call).stmts = call.effect env w.trace.length w.stmts := by
  rw [World.called, World.issued, if_pos hrc]

variable (env w key) in
/-- Reporting an error never returns. -/
theorem tbFdwReportError_raises (sqlerrcode : SqlState) (msg : String) :
    ∃ w', tbFdwReportError env key sqlerrcode msg w = .raise ⟨sqlerrcode, msg⟩ w' := by
  have hdrop : ∃ w', dropConnection env key w = .ok () w' := by
    rw [dropConnection, Proc.read_bind_run]
    cases (w.conn key).connected
    · exact ⟨w, rfl⟩
    · exact ⟨_, rfl⟩
  obtain ⟨w', hdrop⟩ := hdrop
  exact ⟨w', by rw [tbFdwReportError, Proc.bind_of_ok hdrop]; rfl⟩

theorem checkReturn_eq_ok {sqlerrcode : SqlState} {rc : SqlReturn} {u : Unit} :
    checkReturn env key sqlerrcode rc w = .ok u w' ↔ sqlSucceeded rc = true ∧ w' = w := by
  rw [checkReturn]
  by_cases hrc : sqlSucceeded rc = true
  · simp only [hrc, if_true, true_and]
    exact ⟨fun h => by cases h; rfl, fun h => by rw [h]; rfl⟩
  · obtain ⟨w'', hraise⟩ := tbFdwReportError_raises env w key sqlerrcode (returnCodeMessage rc)
    simp [hrc, hraise]

/-- A wrapper returns exactly when its call succeeds. -/
theorem tbCall_eq_ok {call : SqlCall} {u : Unit} :
    tbCall env key call w = .ok u w' ↔
      sqlSucceeded (w.nextRc env) = true ∧ w' = w.called env call := by
  rw [tbCall, Proc.bind_of_ok (issue_run call), checkReturn_eq_ok]

/-- An allocation returns exactly when its call succeeds; the handle is new. -/
theorem tbSqlAllocHandle_eq_ok {handleType : HandleType} {inputHandle handle : Handle}
    {store : Handle → Fdw Unit} {g : Handle → World → World}
    (hstore : ∀ h w, store h w = .ok () (g h w)) :
    tbSqlAllocHandle env key handleType inputHandle store w = .ok handle w' ↔
      sqlSucceeded (w.nextRc env) = true ∧ handle = w.trace.length + 1 ∧
        w' = g handle (w.called env (.allocHandle handleType inputHandle handle)) := by
  -- the handle is stored before the return code is checked
  by_cases hrc : sqlSucceeded (w.nextRc env) = true
  · have halloc : sqlAllocHandle env handleType inputHandle w =
        .ok (w.nextRc env, w.trace.length + 1)
          (w.called env (.allocHandle handleType inputHandle (w.trace.length + 1))) := by
      rw [sqlAllocHandle, Proc.read_bind_run]
      simp only [hrc, if_true]
      rfl
    have hcheck : checkReturn env key .fdwError (w.nextRc env) = pure () := by
      rw [checkReturn, if_pos hrc]
    rw [tbSqlAllocHandle, Proc.bind_of_ok halloc]
    dsimp only
    rw [Proc.bind_of_ok (hstore _ _), hcheck]
    constructor
    · intro h
      cases h
      exact ⟨hrc, rfl, rfl⟩
    · rintro ⟨-, rfl, rfl⟩
      rfl
  · have halloc : ∃ w₁, sqlAllocHandle env handleType inputHandle w =
        .ok (w.nextRc env, SQL_NULL_HANDLE) w₁ := by
      rw [sqlAllocHandle, Proc.read_bind_run]
      simp only [hrc]
      exact ⟨_, rfl⟩
    obtain ⟨w₁, halloc⟩ := halloc
    obtain ⟨w₂, hraise⟩ := tbFdwReportError_raises env (g SQL_NULL_HANDLE w₁) key .fdwError
      (returnCodeMessage (w.nextRc env))
    have hcheck : checkReturn env key .fdwError (w.nextRc env) (g SQL_NULL_HANDLE w₁) =
        .raise ⟨.fdwError, returnCodeMessage (w.nextRc env)⟩ w₂ := by
      rw [checkReturn, if_neg hrc, hraise]
    rw [tbSqlAllocHandle, Proc.bind_of_ok halloc]
    dsimp only
    rw [Proc.bind_of_ok (hstore _ _), Proc.bind_of_raise hcheck]
    simp [hrc]

/-- An allocation into a field of the cache entry. -/
theorem tbSqlAllocHandle_conn_eq_ok {handleType : HandleType} {inputHandle handle : Handle}
    {f : Handle → ConnCacheEntry → ConnCacheEntry} :
    tbSqlAllocHandle env key handleType inputHandle (fun h => modifyConn key (f h)) w =
        .ok handle w' ↔
      sqlSucceeded (w.nextRc env) = true ∧ handle = w.trace.length + 1 ∧
        w' = (w.called env (.allocHandle handleType inputHandle handle)).setConn key (f handle) :=
  tbSqlAllocHandle_eq_ok (g := fun h w => w.setConn key (f h)) fun _ _ => rfl

/-- An allocation into a variable. -/
theorem tbSqlAllocHandle_pure_eq_ok {handleType : HandleType} {inputHandle handle : Handle} :
    tbSqlAllocHandle env key handleType inputHandle (fun _ => pure ()) w = .ok handle w' ↔
      sqlSucceeded (w.nextRc env) = true ∧ handle = w.trace.length + 1 ∧
        w' = w.called env (.allocHandle handleType inputHandle handle) :=
  tbSqlAllocHandle_eq_ok (g := fun _ w => w) fun _ _ => rfl

/-! ## The calls of a run -/

/-- The call, whatever it returns, keeps an invariant of the trace. -/
def SqlCall.Keeps (I : List Issued → Prop) (call : SqlCall) : Prop :=
  ∀ trace rc, I trace → I (trace ++ [⟨call, rc⟩])

/-- The calls of `TbFdwReportError`. -/
def SqlCall.cleansUp : SqlCall → Bool
  | .disconnect _ => true
  | .freeHandle _ _ => true
  | _ => false

section

variable {I : List Issued → Prop}

theorem issue_keeps {call : SqlCall} (hcall : call.Keeps I) :
    Proc.Keeps (fun w => I w.trace) (issue env call) :=
  fun w h => hcall w.trace (w.nextRc env) h

theorem checkReturn_keeps (hclean : ∀ call : SqlCall, call.cleansUp = true → call.Keeps I)
    (sqlerrcode : SqlState) (rc : SqlReturn) :
    Proc.Keeps (fun w => I w.trace) (checkReturn env key sqlerrcode rc) := by
  rw [checkReturn]
  split_ifs
  · exact .pure _
  · refine .bind (.read_bind fun w => .when ?_) fun _ => .raise _
    refine .bind (.modify fun w h => h) fun _ => ?_
    refine .bind (issue_keeps (hclean _ rfl)) fun _ => ?_
    refine .bind (issue_keeps (hclean _ rfl)) fun _ => ?_
    exact .bind (issue_keeps (hclean _ rfl)) fun _ => .pure _

theorem tbCall_keeps (hclean : ∀ call : SqlCall, call.cleansUp = true → call.Keeps I)
    {call : SqlCall}
    (hcall : call.Keeps I) : Proc.Keeps (fun w => I w.trace) (tbCall env key call) :=
  .bind (issue_keeps hcall) fun _ => checkReturn_keeps hclean _ _

theorem sqlAllocHandle_keeps {handleType : HandleType} {inputHandle : Handle}
    (hcall : ∀ handle, (SqlCall.allocHandle handleType inputHandle handle).Keeps I) :
    Proc.Keeps (fun w => I w.trace) (sqlAllocHandle env handleType inputHandle) :=
  .read_bind fun _ => .bind (issue_keeps (hcall _)) fun _ => .pure _

end

/-- A call stays where it is. -/
theorem getElem?_of_isPre {calls calls' : List Issued} (h : calls <+: calls') {n : Nat}
    {i : Issued} (hi : calls[n]? = some i) : calls'[n]? = some i := by
  obtain ⟨rest, rfl⟩ := h
  rw [List.getElem?_append_left (List.getElem?_eq_some_iff.mp hi).1]
  exact hi

/-- Every call that was issued since the `n`-th is in `p`. -/
structure IssuedSince (n : Nat) (p : SqlCall → Prop) (trace : List Issued) : Prop where
  start : n ≤ trace.length
  all : ∀ i ∈ trace.drop n, p i.call

/-- No call was issued since now. -/
theorem IssuedSince.now (p : SqlCall → Prop) (trace : List Issued) :
    IssuedSince trace.length p trace := by
  refine ⟨Nat.le_refl _, ?_⟩
  rw [List.drop_length]
  rintro i ⟨⟩

theorem IssuedSince.keeps {n : Nat} {p : SqlCall → Prop} {call : SqlCall} (hcall : p call) :
    call.Keeps (IssuedSince n p) := by
  intro trace rc h
  constructor
  · rw [List.length_append]
    exact Nat.le_add_right_of_le h.start
  · intro i hi
    rw [List.drop_append_of_le_length h.start, List.mem_append, List.mem_singleton] at hi
    rcases hi with hi | rfl
    · exact h.all i hi
    · exact hcall

@[simp] theorem World.setConn_remote (f : ConnCacheEntry → ConnCacheEntry) :
    (w.setConn key f).remote = w.remote := rfl

@[simp] theorem World.setConn_keys (f : ConnCacheEntry → ConnCacheEntry) :
    (w.setConn key f).keys = w.keys := rfl

@[simp] theorem World.setConn_isolation (f : ConnCacheEntry → ConnCacheEntry) :
    (w.setConn key f).isolationUsesXactSnapshot = w.isolationUsesXactSnapshot := rfl

@[simp] theorem World.setConn_xactGotConnection (f : ConnCacheEntry → ConnCacheEntry) :
    (w.setConn key f).xactGotConnection = w.xactGotConnection := rfl

@[simp] theorem World.setConn_inErrorRecursionTrouble (f : ConnCacheEntry → ConnCacheEntry) :
    (w.setConn key f).inErrorRecursionTrouble = w.inErrorRecursionTrouble := rfl

@[simp] theorem World.setConn_statementStart (f : ConnCacheEntry → ConnCacheEntry) :
    (w.setConn key f).statementStart = w.statementStart := rfl

@[simp] theorem World.setConn_trace (f : ConnCacheEntry → ConnCacheEntry) :
    (w.setConn key f).trace = w.trace := rfl

@[simp] theorem World.setConn_stmts (f : ConnCacheEntry → ConnCacheEntry) :
    (w.setConn key f).stmts = w.stmts := rfl

@[simp] theorem World.setConn_self (f : ConnCacheEntry → ConnCacheEntry) :
    (w.setConn key f).conn key = f (w.conn key) := by
  simp [World.setConn]

theorem World.setConn_of_ne {k : ConnCacheKey} (hk : k ≠ key)
    (f : ConnCacheEntry → ConnCacheEntry) : (w.setConn key f).conn k = w.conn k := by
  simp [World.setConn, hk]

theorem World.setConn_eq_self {f : ConnCacheEntry → ConnCacheEntry}
    (h : f (w.conn key) = w.conn key) : w.setConn key f = w := by
  refine congrArg (fun conn => { w with conn := conn }) (funext fun k => ?_)
  by_cases hk : k = key
  · subst hk
    simp [h]
  · simp [hk]

theorem World.setConn_setConn (f g : ConnCacheEntry → ConnCacheEntry) :
    (w.setConn key f).setConn key g = w.setConn key fun c => g (f c) := by
  refine congrArg (fun conn => { w with conn := conn }) (funext fun k => ?_)
  by_cases hk : k = key
  · subst hk
    simp
  · simp [hk, World.setConn_of_ne hk]

/-! ## Disconnecting -/

/-- The world after the three calls that disconnect. -/
def World.disconnected (w : World) (env : Environment) (key : ConnCacheKey) : World :=
  (((w.called env (.disconnect (w.conn key).hdbc)).called env
    (.freeHandle .dbc (w.conn key).hdbc)).called env
    (.freeHandle .env (w.conn key).henv)).setConn key
      fun c => { c with beginRemoteXact := false, connected := false }

/-- The cleanup of `TbFdwReportError` does the same, whatever the calls return. -/
theorem dropConnection_eq : dropConnection env key w =
    .ok () (if (w.conn key).connected then w.disconnected env key else w) := by
  rw [dropConnection, Proc.read_bind_run]
  rcases hconn : (w.conn key).connected with _ | _
  · rfl
  · rw [if_pos rfl]
    rfl

/-- What is left by a call that fails. -/
theorem checkReturn_fails_run {sqlerrcode : SqlState} {rc : SqlReturn}
    (hrc : ¬sqlSucceeded rc = true) :
    checkReturn env key sqlerrcode rc w =
      .raise ⟨sqlerrcode, returnCodeMessage rc⟩ (dropConnection env key w).next := by
  rw [checkReturn, if_neg hrc, tbFdwReportError, dropConnection_eq,
    Proc.bind_of_ok dropConnection_eq]
  rfl

theorem tbCall_fails_run {call : SqlCall} (hrc : ¬sqlSucceeded (w.nextRc env) = true) :
    tbCall env key call w = .raise ⟨.fdwError, returnCodeMessage (w.nextRc env)⟩
      (dropConnection env key (w.called env call)).next := by
  rw [tbCall, Proc.bind_of_ok (issue_run call), checkReturn_fails_run hrc]

theorem tbSqlAllocHandle_fails_run {handleType : HandleType} {inputHandle : Handle}
    {store : Handle → Fdw Unit} {g : Handle → World → World}
    (hstore : ∀ h w, store h w = .ok () (g h w)) (hrc : ¬sqlSucceeded (w.nextRc env) = true) :
    tbSqlAllocHandle env key handleType inputHandle store w =
      .raise ⟨.fdwError, returnCodeMessage (w.nextRc env)⟩ (dropConnection env key
        (g SQL_NULL_HANDLE (w.called env
          (.allocHandle handleType inputHandle SQL_NULL_HANDLE)))).next := by
  have halloc : sqlAllocHandle env handleType inputHandle w = .ok (w.nextRc env, SQL_NULL_HANDLE)
      (w.called env (.allocHandle handleType inputHandle SQL_NULL_HANDLE)) := by
    rw [sqlAllocHandle, Proc.read_bind_run]
    simp only [hrc]
    rfl
  rw [tbSqlAllocHandle, Proc.bind_of_ok halloc]
  dsimp only
  rw [Proc.bind_of_ok (hstore _ _), Proc.bind_of_raise (checkReturn_fails_run hrc)]

/-- An allocation that is refused while the entry is not connected: there is nothing to
clean up. -/
theorem tbSqlAllocHandle_refused {handleType : HandleType} {inputHandle : Handle}
    {f : Handle → ConnCacheEntry → ConnCacheEntry} (hrc : ¬sqlSucceeded (w.nextRc env) = true)
    (hno : (f SQL_NULL_HANDLE (w.conn key)).connected = false) :
    tbSqlAllocHandle env key handleType inputHandle (fun h => modifyConn key (f h)) w =
      .raise ⟨.fdwError, returnCodeMessage (w.nextRc env)⟩ ((w.called env
        (.allocHandle handleType inputHandle SQL_NULL_HANDLE)).setConn key
          (f SQL_NULL_HANDLE)) := by
  have hstore : ∀ h w, modifyConn key (f h) w = .ok () (w.setConn key (f h)) := fun _ _ => rfl
  have hfails : tbSqlAllocHandle env key handleType inputHandle
      (fun h => modifyConn key (f h)) w = _ := tbSqlAllocHandle_fails_run hstore hrc
  rw [hfails, dropConnection_eq, if_neg (by simp [hno])]
  rfl

/-- `disconnect_tb_server`: nothing without a connection. -/
theorem disconnectTbServer_ok {u : Unit} (h : disconnectTbServer env key w = .ok u w') :
    ((w.conn key).connected = false ∧ w' = w) ∨
      ((w.conn key).connected = true ∧ w' = w.disconnected env key ∧
        w'.remote = w.remote.effect (.disconnect (w.conn key).hdbc)) := by
  rw [disconnectTbServer, Proc.read_bind_run] at h
  rcases hconn : (w.conn key).connected with _ | _
  · rw [hconn] at h
    cases h
    exact .inl ⟨rfl, rfl⟩
  · rw [hconn, Proc.when_true] at h
    obtain ⟨_, w₁, h₁, h⟩ := Proc.bind_eq_ok.mp h
    obtain ⟨_, w₂, h₂, h⟩ := Proc.bind_eq_ok.mp h
    obtain ⟨_, w₃, h₃, h⟩ := Proc.bind_eq_ok.mp h
    rw [tbSqlDisconnect, Proc.read_bind_run, tbCall_eq_ok] at h₁
    rw [tbSqlFreeHandle, tbCall_eq_ok] at h₂ h₃
    obtain ⟨hrc₁, rfl⟩ := h₁
    obtain ⟨hrc₂, rfl⟩ := h₂
    obtain ⟨hrc₃, rfl⟩ := h₃
    cases h
    refine .inr ⟨rfl, rfl, ?_⟩
    rw [World.setConn_remote, World.called_remote hrc₃, World.called_remote hrc₂,
      World.called_remote hrc₁]
    rfl

/-! ## Beginning a remote transaction -/

/-- The text of SET TRANSACTION. -/
def setTransactionSql (isSerializable : Bool) : Text :=
  if isSerializable then "SET TRANSACTION ISOLATION LEVEL SERIALIZABLE".toList
  else "SET TRANSACTION ISOLATION LEVEL READ COMMITTED".toList

theorem commandOfSql_setTransaction (isSerializable : Bool) :
    commandOfSql (setTransactionSql isSerializable) = .setTransaction isSerializable := by
  cases isSerializable <;> decide

/-- The world after the two calls that begin a remote transaction. -/
def World.begun (w : World) (env : Environment) (tbStmt : TbStatement) (isSerializable : Bool) :
    World :=
  ((w.called env (.setConnectAttr (w.conn tbStmt.conn).hdbc SQL_ATTR_AUTOCOMMIT
    SQL_AUTOCOMMIT_OFF)).called env
    (.execDirect tbStmt.hstmt (setTransactionSql isSerializable))).setConn tbStmt.conn
      fun c => { c with beginRemoteXact := true }

theorem beginRemoteXact_ok {tbStmt : TbStatement} {isSerializable : Bool} {u : Unit}
    (h : beginRemoteXact env tbStmt isSerializable w = .ok u w') :
    w' = w.begun env tbStmt isSerializable ∧
      w'.remote = (w.remote.effect (.setConnectAttr (w.conn tbStmt.conn).hdbc SQL_ATTR_AUTOCOMMIT
        SQL_AUTOCOMMIT_OFF)).effect
        (.execDirect tbStmt.hstmt (setTransactionSql isSerializable)) := by
  rw [beginRemoteXact] at h
  obtain ⟨_, w₁, h₁, h⟩ := Proc.bind_eq_ok.mp h
  obtain ⟨_, w₂, h₂, h⟩ := Proc.bind_eq_ok.mp h
  rw [tbSqlSetConnectAttr, Proc.read_bind_run, tbCall_eq_ok] at h₁
  rw [tbSqlExecDirect, tbCall_eq_ok] at h₂
  obtain ⟨hrc₁, rfl⟩ := h₁
  obtain ⟨hrc₂, rfl⟩ := h₂
  cases h
  refine ⟨rfl, ?_⟩
  rw [World.setConn_remote, World.called_remote hrc₂, World.called_remote hrc₁]
  rfl

/-! ## Connecting -/

/-- A new connection of the entry. -/
structure Connected (env : Environment) (key : ConnCacheKey) (w w' : World) : Prop where
  keys : w'.keys = w.keys
  isolation : w'.isolationUsesXactSnapshot = w.isolationUsesXactSnapshot
  xactGotConnection : w'.xactGotConnection = w.xactGotConnection
  trace : w'.trace.length = w.trace.length + 4
  others : ∀ k, k ≠ key → w'.conn k = w.conn k
  entry : w'.conn key = { w.conn key with
    henv := w.trace.length + 1
    hdbc := w.trace.length + 3
    connected := true }
  remote : ∃ connStr, w'.remote = w.remote.effect (.driverConnect (w.trace.length + 3) connStr)
  succeeded : ∀ j < 4, sqlSucceeded (env.rc (w.trace.length + j)) = true

/-- `connect_tb_server`. -/
theorem connectTbServer_ok {params : ConnParams} {u : Unit}
    (h : connectTbServer env key params w = .ok u w') : Connected env key w w' := by
  rw [connectTbServer] at h
  obtain ⟨henv, w₁, h₁, h⟩ := Proc.bind_eq_ok.mp h
  obtain ⟨_, w₂, h₂, h⟩ := Proc.bind_eq_ok.mp h
  obtain ⟨hdbc, w₃, h₃, h⟩ := Proc.bind_eq_ok.mp h
  obtain ⟨_, w₄, h₄, h⟩ := Proc.bind_eq_ok.mp h
  rw [tbSqlAllocHandle_conn_eq_ok] at h₁ h₃
  obtain ⟨hrc₁, rfl, rfl⟩ := h₁
  rw [tbSqlSetEnvAttr, Proc.read_bind_run, tbCall_eq_ok] at h₂
  obtain ⟨hrc₂, rfl⟩ := h₂
  obtain ⟨hrc₃, rfl, rfl⟩ := h₃
  rw [tbSqlDriverConnect, Proc.read_bind_run, Proc.bind_of_ok (issue_run _),
    checkReturn_eq_ok] at h₄
  obtain ⟨hrc₄, rfl⟩ := h₄
  cases h
  refine ⟨by simp, by simp, by simp, by simp, ?_, by simp, ⟨connectionString params, ?_⟩, ?_⟩
  · intro k hk
    simp [World.setConn_of_ne hk]
  · rw [World.setConn_remote, World.called_remote hrc₄, World.setConn_remote,
      World.called_remote hrc₃, World.called_remote hrc₂, World.setConn_remote,
      World.called_remote hrc₁]
    simp [Remote.effect]
  · simp only [World.nextRc, World.called_length, World.setConn_trace] at hrc₁ hrc₂ hrc₃ hrc₄
    intro j hj
    match j, hj with
    | 0, _ => exact hrc₁
    | 1, _ => exact hrc₂
    | 2, _ => exact hrc₃
    | 3, _ => exact hrc₄

/-- The calls of a connection that is made, from the `n`-th on. -/
def connectingCalls (env : Environment) (n : Nat) (params : ConnParams) : List Issued :=
  [⟨.allocHandle .env SQL_NULL_HANDLE (n + 1), env.rc n⟩,
    ⟨.setEnvAttr (n + 1) SQL_ATTR_ODBC_VERSION SQL_OV_ODBC3, env.rc (n + 1)⟩,
    ⟨.allocHandle .dbc (n + 1) (n + 3), env.rc (n + 2)⟩,
    ⟨.driverConnect (n + 3) (connectionString params), env.rc (n + 3)⟩]

theorem connectTbServer_calls {params : ConnParams} {u : Unit}
    (h : connectTbServer env key params w = .ok u w') :
    w'.trace = w.trace ++ connectingCalls env w.trace.length params := by
  rw [connectTbServer] at h
  obtain ⟨henv, w₁, h₁, h⟩ := Proc.bind_eq_ok.mp h
  obtain ⟨_, w₂, h₂, h⟩ := Proc.bind_eq_ok.mp h
  obtain ⟨hdbc, w₃, h₃, h⟩ := Proc.bind_eq_ok.mp h
  obtain ⟨_, w₄, h₄, h⟩ := Proc.bind_eq_ok.mp h
  rw [tbSqlAllocHandle_conn_eq_ok] at h₁ h₃
  obtain ⟨-, rfl, rfl⟩ := h₁
  rw [tbSqlSetEnvAttr, Proc.read_bind_run, tbCall_eq_ok] at h₂
  obtain ⟨-, rfl⟩ := h₂
  obtain ⟨-, rfl, rfl⟩ := h₃
  rw [tbSqlDriverConnect, Proc.read_bind_run, Proc.bind_of_ok (issue_run _),
    checkReturn_eq_ok] at h₄
  obtain ⟨-, rfl⟩ := h₄
  cases h
  simp [connectingCalls, World.called, World.issued, World.nextRc, World.setConn]

/-- The same entry, up to the mark of an invalidation. -/
def SameButInvalidated (c c' : ConnCacheEntry) : Prop :=
  { c with invalidated := false } = { c' with invalidated := false }

namespace SameButInvalidated

variable {c c' c'' : ConnCacheEntry}

theorem refl (c : ConnCacheEntry) : SameButInvalidated c c := rfl

theorem trans (h : SameButInvalidated c c') (h' : SameButInvalidated c' c'') :
    SameButInvalidated c c'' := Eq.trans h h'

theorem connected (h : SameButInvalidated c c') : c'.connected = c.connected :=
  (congrArg (·.connected) h).symm

theorem beginRemoteXact (h : SameButInvalidated c c') :
    c'.beginRemoteXact = c.beginRemoteXact :=
  (congrArg (·.beginRemoteXact) h).symm

theorem hdbc (h : SameButInvalidated c c') : c'.hdbc = c.hdbc :=
  (congrArg (·.hdbc) h).symm

theorem invalidate (cacheid : CacheId) (hashvalue : Nat) (c : ConnCacheEntry) :
    SameButInvalidated c (invalidateEntry cacheid hashvalue c) := by
  rw [invalidateEntry]
  split_ifs <;> rfl

end SameButInvalidated

/-- Only marks of invalidations were set. -/
structure Delivered (w w' : World) : Prop where
  keys : w'.keys = w.keys
  isolation : w'.isolationUsesXactSnapshot = w.isolationUsesXactSnapshot
  xactGotConnection : w'.xactGotConnection = w.xactGotConnection
  trace : w'.trace = w.trace
  conn : ∀ k, SameButInvalidated (w.conn k) (w'.conn k)

/-- `TbfdwInvalCallback` always returns. -/
theorem tbfdwInvalCallback_run (cacheid : CacheId) (hashvalue : Nat) (w : World) :
    ∃ w', tbfdwInvalCallback cacheid hashvalue w = .ok () w' ∧ Delivered w w' := by
  refine ⟨_, rfl, rfl, rfl, rfl, rfl, fun k => ?_⟩
  change SameButInvalidated (w.conn k)
    (if k ∈ w.keys then invalidateEntry cacheid hashvalue (w.conn k) else w.conn k)
  split_ifs
  · exact SameButInvalidated.invalidate cacheid hashvalue (w.conn k)
  · exact SameButInvalidated.refl (w.conn k)

theorem Delivered.refl (w : World) : Delivered w w :=
  ⟨rfl, rfl, rfl, rfl, fun k => SameButInvalidated.refl (w.conn k)⟩

theorem Delivered.trans {w₁ w₂ w₃ : World} (h : Delivered w₁ w₂) (h' : Delivered w₂ w₃) :
    Delivered w₁ w₃ :=
  ⟨h'.keys.trans h.keys, h'.isolation.trans h.isolation,
    h'.xactGotConnection.trans h.xactGotConnection, h'.trace.trans h.trace,
    fun k => (h.conn k).trans (h'.conn k)⟩

theorem deliveries_run (l : List (CacheId × Nat)) (w : World) :
    ∃ w', Proc.forEach l (fun (cacheid, hashvalue) => tbfdwInvalCallback cacheid hashvalue) w =
        .ok () w' ∧ Delivered w w' := by
  induction l generalizing w with
  | nil => exact ⟨w, rfl, Delivered.refl w⟩
  | cons d rest ih =>
    obtain ⟨w₁, hrun₁, hd₁⟩ := tbfdwInvalCallback_run d.1 d.2 w
    obtain ⟨w₂, hrun₂, hd₂⟩ := ih w₁
    refine ⟨w₂, ?_, hd₁.trans hd₂⟩
    rw [Proc.forEach_cons, Proc.bind_of_ok hrun₁]
    exact hrun₂

/-- `GetForeignServer` returns what it finds; it may deliver invalidations. -/
theorem getForeignServer_run (env : Environment) (serverid : Oid) (w : World) :
    ∃ w', getForeignServer env serverid w = .ok (env.foreignServer w.lookups serverid) w' ∧
      Delivered w w' ∧ (env.deliveries w.lookups = [] → w'.conn = w.conn) := by
  obtain ⟨w', hrun, hd⟩ := deliveries_run (env.deliveries w.lookups)
    { w with lookups := w.lookups + 1 }
  refine ⟨w', ?_, ⟨hd.keys, hd.isolation, hd.xactGotConnection, hd.trace, hd.conn⟩, ?_⟩
  · rw [getForeignServer, Proc.read_bind_run, Proc.modify_bind_run, Proc.bind_of_ok hrun]
    rfl
  · intro hnone
    rw [hnone] at hrun
    cases hrun
    rfl

variable (w key) in
/-- The server options set `keep_connections` at most, also when one is not valid. -/
theorem applyConnectionOptions_next (pg : Postgres) (options : List DefElem) (params : ConnParams) :
    ∃ keep, (applyConnectionOptions pg key options params w).next =
      w.setConn key fun c => { c with keepConnections := keep } := by
  induction options generalizing params w with
  | nil => exact ⟨(w.conn key).keepConnections, (World.setConn_eq_self rfl).symm⟩
  | cons def_ rest ih =>
    have hone : ∃ keep, (applyConnectionOption pg key params def_ w).next =
        w.setConn key fun c => { c with keepConnections := keep } := by
      rw [applyConnectionOption]
      split_ifs
      · exact ⟨(w.conn key).keepConnections, (World.setConn_eq_self rfl).symm⟩
      · exact ⟨(w.conn key).keepConnections, (World.setConn_eq_self rfl).symm⟩
      · exact ⟨(w.conn key).keepConnections, (World.setConn_eq_self rfl).symm⟩
      · rcases pg.defGetBoolean def_.arg with _ | keep
        · exact ⟨(w.conn key).keepConnections, (World.setConn_eq_self rfl).symm⟩
        · exact ⟨keep, rfl⟩
      · exact ⟨(w.conn key).keepConnections, (World.setConn_eq_self rfl).symm⟩
    obtain ⟨keep₁, hone⟩ := hone
    rw [applyConnectionOptions]
    rcases hrun : applyConnectionOption pg key params def_ w with ⟨params₁, w₁⟩ | ⟨e, w₁⟩
    · rw [hrun, Outcome.next_ok] at hone
      obtain ⟨keep, hrest⟩ := ih (w := w₁) params₁
      refine ⟨keep, ?_⟩
      rw [Proc.bind_of_ok hrun, hrest, hone, World.setConn_setConn]
    · rw [hrun, Outcome.next_raise] at hone
      rw [Proc.bind_of_raise hrun]
      exact ⟨keep₁, hone⟩

/-- So they keep what does not depend on it. -/
theorem applyConnectionOptions_keeps {I : World → Prop}
    (hkeep : ∀ w keep, I w → I (w.setConn key fun c => { c with keepConnections := keep }))
    (pg : Postgres) (options : List DefElem) (params : ConnParams) :
    Proc.Keeps I (applyConnectionOptions pg key options params) := by
  refine .of_next fun w h => ?_
  obtain ⟨keep, hnext⟩ := applyConnectionOptions_next w key pg options params
  rw [hnext]
  exact hkeep w keep h

/-- The entry has a new connection, and the options were read anew. -/
structure Reconnected (env : Environment) (key : ConnCacheKey) (w w' : World) : Prop where
  keys : w'.keys = w.keys
  isolation : w'.isolationUsesXactSnapshot = w.isolationUsesXactSnapshot
  xactGotConnection : w'.xactGotConnection = w.xactGotConnection
  trace : w'.trace.length = w.trace.length + 4
  connected : (w'.conn key).connected = true
  beginRemoteXact : (w'.conn key).beginRemoteXact = false
  invalidated : (w'.conn key).invalidated = false
  hdbc : (w'.conn key).hdbc = w.trace.length + 3
  others : ∀ k, k ≠ key → SameButInvalidated (w.conn k) (w'.conn k)
  undisturbed : env.deliveries w.lookups = [] → ∀ k, k ≠ key → w'.conn k = w.conn k
  remote : ∃ connStr, w'.remote = w.remote.effect (.driverConnect (w.trace.length + 3) connStr)
  succeeded : ∀ j < 4, sqlSucceeded (env.rc (w.trace.length + j)) = true

/-- `make_tb_connection`. -/
theorem makeTbConnection_ok {pg : Postgres} {user : UserMapping} {u : Unit}
    (h : makeTbConnection pg env key user w = .ok u w') : Reconnected env key w w' := by
  obtain ⟨w₁, hserver, hdel, hnone⟩ := getForeignServer_run env user.serverid w
  rw [makeTbConnection, Proc.bind_of_ok hserver] at h
  obtain ⟨_, w₂, hreset, h⟩ := Proc.bind_eq_ok.mp h
  obtain ⟨params, w₃, hoptions, h⟩ := Proc.bind_eq_ok.mp h
  cases hreset
  obtain ⟨keep, hnext⟩ := applyConnectionOptions_next
    (w₁.setConn key (resetEntry env (env.foreignServer w.lookups user.serverid) user)) key pg
    (env.foreignServer w.lookups user.serverid).options ⟨none, none, none, none, none⟩
  rw [hoptions, Outcome.next_ok] at hnext
  subst hnext
  have hconn := connectTbServer_ok h
  have hlen : w₁.trace.length = w.trace.length := by rw [hdel.trace]
  have hremote : w₁.remote = w.remote := by rw [World.remote, World.remote, hdel.trace]
  refine ⟨?_, ?_, ?_, ?_, ?_, ?_, ?_, ?_, ?_, ?_, ?_, ?_⟩
  · rw [hconn.keys]
    exact hdel.keys
  · rw [hconn.isolation]
    exact hdel.isolation
  · rw [hconn.xactGotConnection]
    exact hdel.xactGotConnection
  · rw [hconn.trace]
    simp [hlen]
  · rw [hconn.entry]
  · rw [hconn.entry]
    simp [resetEntry]
  · rw [hconn.entry]
    simp [resetEntry]
  · rw [hconn.entry]
    simp [hlen]
  · intro k hk
    rw [hconn.others k hk, World.setConn_of_ne hk, World.setConn_of_ne hk]
    exact hdel.conn k
  · intro hdeliveries k hk
    rw [hconn.others k hk, World.setConn_of_ne hk, World.setConn_of_ne hk, hnone hdeliveries]
  · obtain ⟨connStr, hstr⟩ := hconn.remote
    refine ⟨connStr, ?_⟩
    rw [hstr]
    simp [hlen, hremote]
  · have hsucceeded := hconn.succeeded
    simp only [World.setConn_trace, hlen] at hsucceeded
    exact hsucceeded

/-! ## Statements -/

theorem allocStatement_ok {tbStmt stmt : TbStatement}
    (h : allocStatement env tbStmt w = .ok stmt w') :
    stmt = { tbStmt with hstmt := w.trace.length + 1 } ∧
      w' = w.called env
        (.allocHandle .stmt (w.conn tbStmt.conn).hdbc (w.trace.length + 1)) ∧
      w'.remote = w.remote.effect
        (.allocHandle .stmt (w.conn tbStmt.conn).hdbc (w.trace.length + 1)) ∧
      (w'.stmts (w.trace.length + 1)).params = [] := by
  rw [allocStatement, Proc.read_bind_run] at h
  obtain ⟨hstmt, w₁, halloc, h⟩ := Proc.bind_eq_ok.mp h
  rw [tbSqlAllocHandle_pure_eq_ok] at halloc
  obtain ⟨hrc, rfl, rfl⟩ := halloc
  cases h
  refine ⟨rfl, rfl, World.called_remote hrc, ?_⟩
  rw [World.called_stmts hrc]
  simp [SqlCall.effect, setStmt, DriverStmt.fresh]

/-- A fetch does nothing at the remote side, whatever it returns. -/
theorem tbSqlFetch_ok {tbStmt : TbStatement} {r : List Row × Bool}
    (h : tbSqlFetch env tbStmt w = .ok r w') :
    ∃ rc, w' = w.issued env (.fetch tbStmt.hstmt) rc ∧ w'.remote = w.remote := by
  rw [tbSqlFetch] at h
  obtain ⟨⟨rc, batch⟩, w₁, hfetch, h⟩ := Proc.bind_eq_ok.mp h
  have hissued : w₁ = w.issued env (.fetch tbStmt.hstmt) rc := by
    rw [sqlFetch] at hfetch
    split_ifs at hfetch <;> cases hfetch <;> rfl
  have hw' : w' = w₁ := by
    dsimp only at h
    split_ifs at h
    · cases h
      rfl
    · obtain ⟨_, w₂, hcheck, h⟩ := Proc.bind_eq_ok.mp h
      cases h
      exact (checkReturn_eq_ok.mp hcheck).2
  refine ⟨rc, hw'.trans hissued, ?_⟩
  rw [hw', hissued, World.issued_remote, Remote.step]
  split_ifs <;> rfl

/-- The snapshot was fetched into the entry. -/
structure SnapshotFetched (key : ConnCacheKey) (hstmt : Handle) (w w' : World) : Prop where
  keys : w'.keys = w.keys
  isolation : w'.isolationUsesXactSnapshot = w.isolationUsesXactSnapshot
  xactGotConnection : w'.xactGotConnection = w.xactGotConnection
  trace : w'.trace.length = w.trace.length + 4
  others : ∀ k, k ≠ key → w'.conn k = w.conn k
  entry : ∃ tsn, w'.conn key = { w.conn key with tsn, stmtTs := w.statementStart }
  params : (w'.stmts hstmt).params = (w.stmts hstmt).params
  remote : w'.remote = w.remote.effect
    (.execDirect hstmt "SELECT current_tsn FROM v$database".toList)

theorem storeTsn_ok {batch : List Row} {u : Unit} (h : storeTsn key batch w = .ok u w') :
    ∃ tsn, w' = w.setConn key fun c => { c with tsn := tsn } := by
  unfold storeTsn at h
  split at h
  · cases h
    exact ⟨_, rfl⟩
  · cases h
    exact ⟨(w.conn key).tsn, (World.setConn_eq_self rfl).symm⟩

theorem fetchTsn_ok {tbStmt : TbStatement} {u : Unit} (h : fetchTsn env tbStmt w = .ok u w') :
    SnapshotFetched tbStmt.conn tbStmt.hstmt w w' := by
  rw [fetchTsn] at h
  obtain ⟨_, w₁, h₁, h⟩ := Proc.bind_eq_ok.mp h
  obtain ⟨_, w₂, h₂, h⟩ := Proc.bind_eq_ok.mp h
  obtain ⟨⟨batch, _⟩, w₃, h₃, h⟩ := Proc.bind_eq_ok.mp h
  obtain ⟨_, w₄, h₄, h⟩ := Proc.bind_eq_ok.mp h
  obtain ⟨_, w₅, h₅, h⟩ := Proc.bind_eq_ok.mp h
  rw [tbSqlExecDirect, tbCall_eq_ok] at h₁
  rw [tbSqlBindCol, tbCall_eq_ok] at h₂
  rw [tbSqlFreeStmt, tbCall_eq_ok] at h₅
  obtain ⟨hrc₁, rfl⟩ := h₁
  obtain ⟨hrc₂, rfl⟩ := h₂
  obtain ⟨rc, rfl, hremote₃⟩ := tbSqlFetch_ok h₃
  obtain ⟨tsn, rfl⟩ := storeTsn_ok h₄
  obtain ⟨hrc₅, rfl⟩ := h₅
  cases h
  refine ⟨by simp, by simp, by simp, by simp, ?_, ⟨tsn, ?_⟩, ?_, ?_⟩
  · intro k hk
    simp [World.setConn_of_ne hk]
  · rw [World.setConn_self]
    simp
  · rw [World.setConn_stmts, World.called_params rfl, World.setConn_stmts, World.issued_params rfl,
      World.called_params rfl, World.called_params rfl]
  · rw [World.setConn_remote, World.called_remote hrc₅, World.setConn_remote, hremote₃,
      World.called_remote hrc₂, World.called_remote hrc₁]
    rfl

/-- The commands that begin a remote transaction. -/
def opening (isSerializable : Bool) : List Command :=
  [.autocommitOff, .setTransaction isSerializable]

/-- A statement was opened on the connection of the entry: first a remote
transaction, unless there is one, then possibly the query for the snapshot. -/
structure Opened (key : ConnCacheKey) (w w' : World) (stmt : TbStatement) : Prop where
  keys : w'.keys = w.keys
  isolation : w'.isolationUsesXactSnapshot = w.isolationUsesXactSnapshot
  xactGotConnection : w'.xactGotConnection = w.xactGotConnection
  others : ∀ k, k ≠ key → w'.conn k = w.conn k
  connected : (w'.conn key).connected = (w.conn key).connected
  invalidated : (w'.conn key).invalidated = (w.conn key).invalidated
  hdbc : (w'.conn key).hdbc = (w.conn key).hdbc
  beginRemoteXact : (w'.conn key).beginRemoteXact = true
  stmtConn : stmt.conn = key
  hstmt : stmt.hstmt = w.trace.length + 1
  unbound : (w'.stmts stmt.hstmt).params = []
  trace : w.trace.length < w'.trace.length
  session : w'.remote.session = Remote.set w.remote.session stmt.hstmt (w.conn key).hdbc
  isOpen : w'.remote.isOpen = w.remote.isOpen
  autocommit : w'.remote.autocommit =
    if (w.conn key).beginRemoteXact then w.remote.autocommit
    else Remote.set w.remote.autocommit (w.conn key).hdbc false
  work : w'.remote.work = w.remote.work
  executed : w'.remote.executed = w.remote.executed
  committed : w'.remote.committed = w.remote.committed
  log : ∃ stmts, (∀ c ∈ stmts, c = Command.statement) ∧
    w'.remote.log = Remote.set w.remote.log (w.conn key).hdbc
      (w.remote.log (w.conn key).hdbc ++
        ((if (w.conn key).beginRemoteXact then []
          else opening w.isolationUsesXactSnapshot) ++ stmts))

theorem commandOfSql_snapshot :
    commandOfSql "SELECT current_tsn FROM v$database".toList = .statement := by decide

/-- A new statement, in the remote transaction that is open already. -/
theorem Opened.of_alloc {tbStmt stmt : TbStatement} (h : allocStatement env tbStmt w = .ok stmt w')
    (hbegun : (w.conn tbStmt.conn).beginRemoteXact = true) : Opened tbStmt.conn w w' stmt := by
  obtain ⟨rfl, rfl, hremote, hunbound⟩ := allocStatement_ok h
  refine ⟨by simp, by simp, by simp, by simp, by simp, by simp, by simp, by simp [hbegun], rfl, rfl,
    hunbound, by simp, ?_, ?_, ?_, ?_, ?_, ?_, [], by simp, ?_⟩ <;> rw [hremote] <;>
    simp [Remote.effect, hbegun]
  funext x
  by_cases hx : x = (w.conn tbStmt.conn).hdbc
  · subst hx
    simp
  · rw [Remote.set_of_ne hx]

/-- The two calls that begin a remote transaction, on a statement of the session. -/
theorem Remote.effect_begin (r : Remote) {hdbc hstmt : Handle} (isSerializable : Bool)
    (hsession : r.session hstmt = hdbc) :
    (r.effect (.setConnectAttr hdbc SQL_ATTR_AUTOCOMMIT SQL_AUTOCOMMIT_OFF)).effect
        (.execDirect hstmt (setTransactionSql isSerializable)) =
      { r with
        autocommit := Remote.set r.autocommit hdbc false
        log := Remote.set r.log hdbc (r.log hdbc ++ opening isSerializable) } := by
  simp [Remote.effect, Remote.receive, hsession, commandOfSql_setTransaction, opening]

/-- A new statement, in a remote transaction that is begun for it. -/
theorem opened_of_begin {tbStmt stmt : TbStatement} {w₁ : World} {u : Unit}
    (h : allocStatement env tbStmt w = .ok stmt w₁)
    (hfresh : (w.conn tbStmt.conn).beginRemoteXact = false)
    (hbegin : beginRemoteXact env stmt w.isolationUsesXactSnapshot w₁ = .ok u w') :
    Opened tbStmt.conn w w' stmt := by
  obtain ⟨rfl, rfl, hremote₁, hunbound⟩ := allocStatement_ok h
  obtain ⟨rfl, hremote⟩ := beginRemoteXact_ok hbegin
  rw [hremote₁] at hremote
  simp only [World.called_conn] at hremote
  rw [Remote.effect_begin _ _ (by simp [Remote.effect])] at hremote
  refine ⟨by simp [World.begun], by simp [World.begun], by simp [World.begun], ?_,
    by simp [World.begun], by simp [World.begun], by simp [World.begun], by simp [World.begun],
    rfl, rfl, ?_, ?_, ?_, ?_, ?_, ?_, ?_, ?_, [], by simp, ?_⟩
  · intro k hk
    simp [World.begun, World.setConn_of_ne hk]
  · rw [World.begun, World.setConn_stmts, World.called_params rfl, World.called_params rfl]
    exact hunbound
  · simp only [World.begun, World.setConn_trace, World.called_length]
    omega
  all_goals rw [hremote]
  all_goals simp [Remote.effect, hfresh]

/-- The query for the snapshot on a statement that was opened. -/
theorem Opened.snapshot {w₁ : World} {stmt : TbStatement} (h : Opened key w w₁ stmt)
    (hs : SnapshotFetched key stmt.hstmt w₁ w') : Opened key w w' stmt := by
  obtain ⟨tsn, hentry⟩ := hs.entry
  obtain ⟨stmts, hstmts, hlog⟩ := h.log
  have hsession : w₁.remote.session stmt.hstmt = (w.conn key).hdbc := by
    rw [h.session, Remote.set_same]
  have hremote := hs.remote
  simp only [Remote.effect, hsession, commandOfSql_snapshot, Remote.receive] at hremote
  refine ⟨hs.keys.trans h.keys, hs.isolation.trans h.isolation,
    hs.xactGotConnection.trans h.xactGotConnection,
    fun k hk => (hs.others k hk).trans (h.others k hk), ?_, ?_, ?_, ?_, h.stmtConn, h.hstmt, ?_,
    ?_, ?_, ?_, ?_, ?_, ?_, ?_, stmts ++ [.statement], ?_, ?_⟩
  · rw [hentry, ← h.connected]
  · rw [hentry, ← h.invalidated]
  · rw [hentry, ← h.hdbc]
  · rw [hentry, ← h.beginRemoteXact]
  · rw [hs.params, h.unbound]
  · rw [hs.trace]
    have := h.trace
    omega
  · rw [hremote, ← h.session]
  · rw [hremote, ← h.isOpen]
  · rw [hremote, ← h.autocommit]
  · rw [hremote, ← h.work]
  · rw [hremote, ← h.executed]
  · rw [hremote, ← h.committed]
  · intro c hc
    rcases List.mem_append.mp hc with hc | hc
    · exact hstmts c hc
    · exact List.mem_singleton.mp hc
  · rw [hremote, hlog]
    funext x
    by_cases hx : x = (w.conn key).hdbc
    · simp [hx]
    · simp [Remote.set_of_ne hx]

theorem openStatement_ok {tbStmt stmt : TbStatement} {useFbQuery : Bool}
    (h : openStatement env tbStmt useFbQuery w = .ok stmt w') : Opened tbStmt.conn w w' stmt := by
  rw [openStatement] at h
  obtain ⟨stmt₁, w₁, halloc, h⟩ := Proc.bind_eq_ok.mp h
  rw [Proc.read_bind_run] at h
  obtain ⟨_, w₂, hbegin, h⟩ := Proc.bind_eq_ok.mp h
  rw [Proc.read_bind_run] at h
  obtain ⟨_, w₃, hsnapshot, h⟩ := Proc.bind_eq_ok.mp h
  cases h
  obtain ⟨hstmt₁, hw₁, -, -⟩ := allocStatement_ok halloc
  have hconn : stmt₁.conn = tbStmt.conn := by rw [hstmt₁]
  have hopened : Opened tbStmt.conn w w₂ stmt₁ := by
    rw [hconn, hw₁] at hbegin
    simp only [World.called_conn, World.called_isolation] at hbegin
    rcases hb : (w.conn tbStmt.conn).beginRemoteXact with _ | _
    · rw [hb, Bool.not_false, Proc.when_true, ← hw₁] at hbegin
      exact opened_of_begin halloc hb hbegin
    · rw [hb, Bool.not_true, Proc.when_false] at hbegin
      cases hbegin
      rw [← hw₁]
      exact Opened.of_alloc halloc hb
  have hdone : Opened tbStmt.conn w w' stmt₁ := by
    rcases hcond : (useFbQuery && needRemoteSnapshot w₂ stmt₁.conn) with _ | _
    · rw [hcond] at hsnapshot
      cases hsnapshot
      exact hopened
    · rw [hcond, Proc.when_true] at hsnapshot
      have hfetched := fetchTsn_ok hsnapshot
      rw [hconn] at hfetched
      exact hopened.snapshot hfetched
  -- the fields of the statement that are set last play no part
  exact ⟨hdone.keys, hdone.isolation, hdone.xactGotConnection, hdone.others, hdone.connected,
    hdone.invalidated, hdone.hdbc, hdone.beginRemoteXact, hdone.stmtConn, hdone.hstmt,
    hdone.unbound,
    hdone.trace,
    hdone.session, hdone.isOpen, hdone.autocommit, hdone.work, hdone.executed, hdone.committed,
    hdone.log⟩

/-! ## A statement of the connection -/

/-- The world without the connection of the entry, if it has one. -/
def Remote.dropped (r : Remote) (conn : ConnCacheEntry) : Remote :=
  if conn.connected then r.effect (.disconnect conn.hdbc) else r

/-- The connection of the entry was replaced by a new one. -/
structure Replaced (env : Environment) (key : ConnCacheKey) (w w' : World) : Prop where
  keys : w'.keys = w.keys
  isolation : w'.isolationUsesXactSnapshot = w.isolationUsesXactSnapshot
  xactGotConnection : w'.xactGotConnection = w.xactGotConnection
  connected : (w'.conn key).connected = true
  beginRemoteXact : (w'.conn key).beginRemoteXact = false
  invalidated : (w'.conn key).invalidated = false
  hdbc_gt : w.trace.length < (w'.conn key).hdbc
  hdbc_le : w'.trace.length ≥ (w'.conn key).hdbc
  others : ∀ k, k ≠ key → SameButInvalidated (w.conn k) (w'.conn k)
  undisturbed : (∀ n, env.deliveries n = []) → ∀ k, k ≠ key → w'.conn k = w.conn k
  remote : ∃ connStr, w'.remote =
    (w.remote.dropped (w.conn key)).effect (.driverConnect (w'.conn key).hdbc connStr)

theorem Reconnected.replaced (h : Reconnected env key w w') :
    (w.conn key).connected = false → Replaced env key w w' := by
  intro hconn
  refine ⟨h.keys, h.isolation, h.xactGotConnection, h.connected, h.beginRemoteXact, h.invalidated,
    ?_, ?_, h.others, fun hnone => h.undisturbed (hnone _), ?_⟩
  · rw [h.hdbc]
    omega
  · rw [h.hdbc, h.trace]
    omega
  · obtain ⟨connStr, hremote⟩ := h.remote
    refine ⟨connStr, ?_⟩
    rw [hremote, h.hdbc, Remote.dropped, hconn]
    rfl

/-- Disconnecting before the new connection. -/
theorem Reconnected.replaced_of_disconnected {w₁ : World}
    (hconn : (w.conn key).connected = true) (hw₁ : w₁ = w.disconnected env key)
    (hremote₁ : w₁.remote = w.remote.effect (.disconnect (w.conn key).hdbc))
    (h : Reconnected env key w₁ w') : Replaced env key w w' := by
  have hothers : ∀ k, k ≠ key → w₁.conn k = w.conn k := by
    intro k hk
    simp [hw₁, World.disconnected, World.setConn_of_ne hk]
  have hlen : w₁.trace.length = w.trace.length + 3 := by
    simp [hw₁, World.disconnected]
  refine ⟨?_, ?_, ?_, h.connected, h.beginRemoteXact, h.invalidated, ?_, ?_, ?_, ?_, ?_⟩
  · rw [h.keys, hw₁]
    simp [World.disconnected]
  · rw [h.isolation, hw₁]
    simp [World.disconnected]
  · rw [h.xactGotConnection, hw₁]
    simp [World.disconnected]
  · rw [h.hdbc, hlen]
    omega
  · rw [h.hdbc, h.trace]
    omega
  · intro k hk
    rw [← hothers k hk]
    exact h.others k hk
  · intro hnone k hk
    rw [h.undisturbed (hnone _) k hk, hothers k hk]
  · obtain ⟨connStr, hremote⟩ := h.remote
    refine ⟨connStr, ?_⟩
    rw [hremote, h.hdbc, hremote₁, Remote.dropped, hconn]
    rfl

/-- Disconnecting, if there is something to disconnect, and connecting again. -/
theorem replaced_of_disconnect {pg : Postgres} {user : UserMapping} {w₁ : World} {u u' : Unit}
    (hdisconnect : disconnectTbServer env key w = .ok u w₁)
    (hmake : makeTbConnection pg env key user w₁ = .ok u' w') : Replaced env key w w' := by
  rcases disconnectTbServer_ok hdisconnect with ⟨hconn, rfl⟩ | ⟨hconn, hw₁, hremote₁⟩
  · exact (makeTbConnection_ok hmake).replaced hconn
  · exact (makeTbConnection_ok hmake).replaced_of_disconnected hconn hw₁ hremote₁

theorem World.disconnected_connected :
    ((w.disconnected env key).conn key).connected = false := by
  simp [World.disconnected]

/-- An entry with an open connection that is up to date. -/
def ConnCacheEntry.upToDate (conn : ConnCacheEntry) : Bool :=
  conn.connected && !conn.invalidated

/-- The first half of the `PG_TRY` block: nothing, or a new connection. -/
theorem ensureConnection_ok {pg : Postgres} {user : UserMapping} {u : Unit}
    (h : ensureConnection pg env key user w = .ok u w') :
    ((w.conn key).upToDate = true ∧ w' = w) ∨
      ((w.conn key).upToDate = false ∧ Replaced env key w w') := by
  rw [ensureConnection, Proc.read_bind_run] at h
  obtain ⟨_, w₁, hdrop, h⟩ := Proc.bind_eq_ok.mp h
  rw [Proc.read_bind_run] at h
  rcases hconn : (w.conn key).connected with _ | _
  · -- there is no connection
    rw [hconn] at hdrop
    cases hdrop
    rw [hconn] at h
    exact .inr ⟨by simp [ConnCacheEntry.upToDate, hconn], (makeTbConnection_ok h).replaced hconn⟩
  · rcases hinv : (w.conn key).invalidated with _ | _
    · rw [hconn, hinv] at hdrop
      cases hdrop
      rw [hconn] at h
      cases h
      exact .inl ⟨by simp [ConnCacheEntry.upToDate, hconn, hinv], rfl⟩
    · -- the connection is out of date
      rw [hconn, hinv] at hdrop
      refine .inr ⟨by simp [ConnCacheEntry.upToDate, hinv], ?_⟩
      rcases disconnectTbServer_ok hdrop with ⟨hfalse, -⟩ | ⟨-, hw₁, hremote₁⟩
      · rw [hconn] at hfalse
        cases hfalse
      · rw [hw₁, World.disconnected_connected, ← hw₁] at h
        exact (makeTbConnection_ok h).replaced_of_disconnected hconn hw₁ hremote₁

/-- The connection that a statement is opened on: the one that was there, or a
new one. -/
def Ensured (env : Environment) (key : ConnCacheKey) (w w' : World) : Prop :=
  ((w.conn key).upToDate = true ∧ w' = w) ∨ ((w.conn key).upToDate = false ∧ Replaced env key w w')

/-- The `PG_TRY` block. -/
theorem tryTbStatement_ok {pg : Postgres} {user : UserMapping} {tbStmt stmt : TbStatement}
    {useFbQuery : Bool}
    (h : tryTbStatement pg env user tbStmt useFbQuery w = .ok stmt w') :
    ∃ w₁, Ensured env tbStmt.conn w w₁ ∧ Opened tbStmt.conn w₁ w' stmt := by
  rw [tryTbStatement] at h
  obtain ⟨_, w₁, hensure, h⟩ := Proc.bind_eq_ok.mp h
  exact ⟨w₁, ensureConnection_ok hensure, openStatement_ok h⟩

/-- The second attempt. -/
theorem retryTbStatement_ok {pg : Postgres} {user : UserMapping} {tbStmt stmt : TbStatement}
    (h : retryTbStatement pg env user tbStmt w = .ok stmt w') :
    ∃ w₁, Replaced env tbStmt.conn w w₁ ∧ Opened tbStmt.conn w₁ w' stmt := by
  rw [retryTbStatement] at h
  obtain ⟨_, w₁, hdisconnect, h⟩ := Proc.bind_eq_ok.mp h
  obtain ⟨_, w₂, hmake, h⟩ := Proc.bind_eq_ok.mp h
  obtain ⟨stmt₁, w₃, halloc, h⟩ := Proc.bind_eq_ok.mp h
  rw [Proc.read_bind_run] at h
  obtain ⟨_, w₄, hbegin, h⟩ := Proc.bind_eq_ok.mp h
  cases h
  have hreplaced := replaced_of_disconnect hdisconnect hmake
  refine ⟨w₂, hreplaced, ?_⟩
  rw [(allocStatement_ok halloc).2.1, World.called_isolation,
    ← (allocStatement_ok halloc).2.1] at hbegin
  exact opened_of_begin halloc hreplaced.beginRemoteXact hbegin

/-- The world in which the `PG_TRY` block of `get_tb_statement` starts. -/
def World.entered (w : World) (env : Environment) (key : ConnCacheKey) : World :=
  if key ∈ w.keys then { w with xactGotConnection := true }
  else
    { w.setConn key fun c => { c with connected := false } with
      xactGotConnection := true
      keys := w.keys.take (env.hashSlot key w.keys) ++
        key :: w.keys.drop (env.hashSlot key w.keys) }

theorem hashEnter_run (key : ConnCacheKey) :
    hashEnter env key { w with xactGotConnection := true } = .ok () (w.entered env key) := by
  rw [hashEnter, Proc.modify_run, World.entered]
  by_cases hkey : key ∈ w.keys
  · simp only [hkey, if_true]
  · simp only [hkey, if_false]
    rfl

theorem getTbStatement_run (pg : Postgres) (user : UserMapping) (tbStmt : TbStatement)
    (useFbQuery : Bool) :
    getTbStatement pg env user tbStmt useFbQuery w =
      (tryTbStatement pg env user { tbStmt with conn := user.umid } useFbQuery).onError
        (fun err => if err.sqlerrcode = .fdwError then
          retryTbStatement pg env user { tbStmt with conn := user.umid } else Proc.raise err)
        (w.entered env user.umid) := by
  rw [getTbStatement, Proc.modify_bind_run, Proc.bind_of_ok (hashEnter_run user.umid)]

/-- `get_tb_statement` returns from its first attempt, or from the second one. -/
theorem getTbStatement_ok {pg : Postgres} {user : UserMapping} {tbStmt stmt : TbStatement}
    {useFbQuery : Bool} (h : getTbStatement pg env user tbStmt useFbQuery w = .ok stmt w') :
    tryTbStatement pg env user { tbStmt with conn := user.umid } useFbQuery
        (w.entered env user.umid) = .ok stmt w' ∨
      ∃ err w₁, tryTbStatement pg env user { tbStmt with conn := user.umid } useFbQuery
          (w.entered env user.umid) = .raise err w₁ ∧ err.sqlerrcode = .fdwError ∧
        retryTbStatement pg env user { tbStmt with conn := user.umid } w₁ = .ok stmt w' := by
  rw [getTbStatement_run] at h
  rcases htry : tryTbStatement pg env user { tbStmt with conn := user.umid } useFbQuery
      (w.entered env user.umid) with ⟨stmt₁, w₁⟩ | ⟨err, w₁⟩
  · rw [Proc.onError_of_ok htry] at h
    cases h
    exact .inl rfl
  · rw [Proc.onError_of_raise htry] at h
    by_cases hcode : err.sqlerrcode = .fdwError
    · rw [if_pos hcode] at h
      exact .inr ⟨err, w₁, rfl, hcode, h⟩
    · rw [if_neg hcode] at h
      cases h

/-! ## The end of a transaction -/

/-- The remote transaction of the entry was ended, and possibly its connection. -/
structure Ended (env : Environment) (key : ConnCacheKey) (completionType : CompletionType)
    (w w' : World) : Prop where
  keys : w'.keys = w.keys
  isolation : w'.isolationUsesXactSnapshot = w.isolationUsesXactSnapshot
  xactGotConnection : w'.xactGotConnection = w.xactGotConnection
  inErrorRecursionTrouble : w'.inErrorRecursionTrouble = w.inErrorRecursionTrouble
  others : ∀ k, k ≠ key → w'.conn k = w.conn k
  beginRemoteXact : (w'.conn key).beginRemoteXact = false
  invalidated : (w'.conn key).invalidated = (w.conn key).invalidated
  trace : w.trace.length ≤ w'.trace.length
  /-- when the connection was kept -/
  kept : (w'.conn key).connected = true → (w'.conn key).hdbc = (w.conn key).hdbc ∧
    w'.remote = w.remote.effect (.endTran (w.conn key).hdbc completionType)
  remote : w'.remote = w.remote.effect (.endTran (w.conn key).hdbc completionType) ∨
    w'.remote = (w.remote.effect (.endTran (w.conn key).hdbc completionType)).effect
      (.disconnect (w.conn key).hdbc)

/-- Ending the remote transaction of a connected entry. -/
theorem endRemoteXact_ok {completionType : CompletionType} {u : Unit}
    (hconn : (w.conn key).connected = true)
    (h : endRemoteXact env key completionType w = .ok u w') :
    Ended env key completionType w w' := by
  rw [endRemoteXact, Proc.read_bind_run, hconn, Proc.when_true] at h
  obtain ⟨_, w₁, hend, h⟩ := Proc.bind_eq_ok.mp h
  rw [tbSqlEndTran, Proc.read_bind_run] at hend
  obtain ⟨_, w₂, hcall, hend⟩ := Proc.bind_eq_ok.mp hend
  obtain ⟨hrc, rfl⟩ := tbCall_eq_ok.mp hcall
  cases hend
  rw [Proc.read_bind_run] at h
  have hremote₁ : ((w.called env (.endTran (w.conn key).hdbc completionType)).setConn key
      fun c => { c with beginRemoteXact := false }).remote =
      w.remote.effect (.endTran (w.conn key).hdbc completionType) := by
    rw [World.setConn_remote, World.called_remote hrc]
  rcases hdrop : ((((w.called env (.endTran (w.conn key).hdbc completionType)).setConn key
      fun c => { c with beginRemoteXact := false }).conn key).invalidated ||
      !(((w.called env (.endTran (w.conn key).hdbc completionType)).setConn key
      fun c => { c with beginRemoteXact := false }).conn key).keepConnections) with _ | _
  · rw [hdrop] at h
    cases h
    refine ⟨by simp, by simp, by simp, by simp, ?_, by simp, by simp, by simp,
      fun _ => ⟨by simp, hremote₁⟩, .inl hremote₁⟩
    intro k hk
    simp [World.setConn_of_ne hk]
  · rw [hdrop, Proc.when_true] at h
    rcases disconnectTbServer_ok h with ⟨hfalse, -⟩ | ⟨-, rfl, hremote⟩
    · simp [hconn] at hfalse
    · refine ⟨by simp [World.disconnected], by simp [World.disconnected],
        by simp [World.disconnected], by simp [World.disconnected], ?_, ?_, ?_, ?_, ?_, .inr ?_⟩
      · intro k hk
        simp [World.disconnected, World.setConn_of_ne hk]
      · simp [World.disconnected]
      · simp [World.disconnected]
      · simp only [World.disconnected, World.setConn_trace, World.called_length]
        omega
      · rw [World.disconnected_connected]
        simp
      · rw [hremote, hremote₁]
        simp

end

end TiberoFdw
