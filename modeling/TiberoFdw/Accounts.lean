import TiberoFdw.Freshness

/-!
# Where the handles of connections go

An environment or connection handle that was allocated is in a connected cache entry,
or it was passed to `SQLFreeHandle` (`Accounted`). Disconnecting passes both handles of
its entry, on every way out. Two things lose handles: a connection attempt that fails
halfway, since the entry is marked as connected after the last call only, and an abort
in error recursion trouble, which just clears the mark.
-/

namespace TiberoFdw

/-- The entry holds the handle. -/
def ConnCacheEntry.Holds (c : ConnCacheEntry) : HandleType → Handle → Prop
  | .env, h => c.henv = h
  | .dbc, h => c.hdbc = h
  | .stmt, _ => False

/-- The handle was passed to `SQLFreeHandle`. -/
def Passed (calls : List Issued) (handleType : HandleType) (h : Handle) : Prop :=
  ∃ rc, ⟨.freeHandle handleType h, rc⟩ ∈ calls

/-- The handle is in a connected entry of the cache, or it was passed to `SQLFreeHandle`. -/
def World.Accounts (w : World) (handleType : HandleType) (h : Handle) : Prop :=
  (∃ key, w.Live key ∧ (w.conn key).Holds handleType h) ∨ Passed w.trace handleType h

/-- Every environment and connection handle that was allocated is accounted for. -/
def Accounted (w : World) : Prop :=
  ∀ handleType inputHandle h rc, handleType ≠ .stmt →
    ⟨.allocHandle handleType inputHandle h, rc⟩ ∈ w.trace → sqlSucceeded rc = true →
    w.Accounts handleType h

/-- When the `n`-th call allocates the environment of a connection attempt, the three
calls that complete the attempt succeed. -/
def attemptCompletes (env : Environment) (calls : List Issued) (n : Nat) : Bool :=
  match calls[n]? with
  | some ⟨.allocHandle .env _ _, rc⟩ =>
    !sqlSucceeded rc || (List.range 3).all fun i => sqlSucceeded (env.rc (n + 1 + i))
  | _ => true

/-- No connection attempt fails halfway. -/
def Completes (env : Environment) (calls : List Issued) : Prop :=
  ∀ n < calls.length, attemptCompletes env calls n = true

instance (env : Environment) (calls : List Issued) : Decidable (Completes env calls) :=
  inferInstanceAs (Decidable (∀ n < calls.length, _))

section

variable {pg : Postgres} {env : Environment} {w w' : World} {key : ConnCacheKey}

theorem Completes.of_prefix {calls calls' : List Issued} (h : Completes env calls')
    (hpre : calls <+: calls') : Completes env calls := by
  intro n hn
  have hcall := List.getElem?_eq_getElem hn
  have hsame := h n (Nat.lt_of_lt_of_le hn hpre.length_le)
  rw [attemptCompletes, getElem?_of_isPre hpre hcall] at hsame
  rw [attemptCompletes, hcall]
  exact hsame

theorem Completes.attempt {calls : List Issued} (h : Completes env calls) {n : Nat}
    {inputHandle hd : Handle} {rc : SqlReturn}
    (hcall : calls[n]? = some ⟨.allocHandle .env inputHandle hd, rc⟩)
    (hrc : sqlSucceeded rc = true) {i : Nat} (hi : i < 3) :
    sqlSucceeded (env.rc (n + 1 + i)) = true := by
  have hn := h n (List.getElem?_eq_some_iff.mp hcall).1
  rw [attemptCompletes, hcall] at hn
  simp only [hrc, Bool.not_true, Bool.false_or, List.all_eq_true, List.mem_range] at hn
  exact hn i hi

theorem Passed.of_prefix {calls calls' : List Issued} {handleType : HandleType} {h : Handle}
    (hp : Passed calls handleType h) (hpre : calls <+: calls') : Passed calls' handleType h := by
  obtain ⟨rc, hmem⟩ := hp
  exact ⟨rc, hpre.subset hmem⟩

/-! ## One step -/

/-- The handles of the live entries stay accounted for, and so do new ones. -/
theorem Accounted.next (h : Accounted w) (hpre : w.trace <+: w'.trace)
    (hlive : ∀ key handleType hd, w.Live key → (w.conn key).Holds handleType hd →
      w'.Accounts handleType hd)
    (hnew : ∀ handleType inputHandle hd rc, handleType ≠ .stmt →
      ⟨.allocHandle handleType inputHandle hd, rc⟩ ∈ w'.trace.drop w.trace.length →
      sqlSucceeded rc = true → w'.Accounts handleType hd) : Accounted w' := by
  intro handleType inputHandle hd rc htype hmem hrc
  obtain ⟨rest, hrest⟩ := hpre
  rw [← hrest, List.mem_append] at hmem
  rcases hmem with hold | hmem
  · rcases h handleType inputHandle hd rc htype hold hrc with ⟨key, hkey, hholds⟩ | hpassed
    · exact hlive key handleType hd hkey hholds
    · exact .inr (hpassed.of_prefix ⟨rest, hrest⟩)
  · refine hnew handleType inputHandle hd rc htype ?_ hrc
    rw [← hrest, List.drop_left]
    exact hmem

/-- A call that allocates no environment and no connection. -/
def SqlCall.ownsNothing : SqlCall → Bool
  | .allocHandle .env _ _ => false
  | .allocHandle .dbc _ _ => false
  | _ => true

theorem Accounted.issued (h : Accounted w) {call : SqlCall} {rc : SqlReturn}
    (hcall : sqlSucceeded rc = true → call.ownsNothing = true) :
    Accounted (w.issued env call rc) := by
  refine h.next (List.prefix_append ..) (fun k _ _ hk hholds => .inl ⟨k, hk, hholds⟩) ?_
  intro handleType inputHandle hd rc' htype hmem hrc
  have hmem : ⟨.allocHandle handleType inputHandle hd, rc'⟩ ∈ [Issued.mk call rc] := by
    rwa [World.issued, List.drop_left] at hmem
  cases List.mem_singleton.mp hmem
  cases handleType with
  | stmt => exact (htype rfl).elim
  | env | dbc => cases hcall hrc

/-- The same connections. -/
theorem Accounted.of_conn (h : Accounted w) (htrace : w'.trace = w.trace)
    (hconn : ∀ k, w.Live k → w'.Live k ∧ (w'.conn k).henv = (w.conn k).henv ∧
      (w'.conn k).hdbc = (w.conn k).hdbc) : Accounted w' := by
  refine h.next (htrace ▸ List.prefix_rfl) ?_ ?_
  · intro k handleType hd hk hholds
    obtain ⟨hlive, henv, hdbc⟩ := hconn k hk
    refine .inl ⟨k, hlive, ?_⟩
    cases handleType with
    | env => exact henv.trans hholds
    | dbc => exact hdbc.trans hholds
    | stmt => exact hholds
  · intro handleType inputHandle hd rc htype hmem
    rw [htrace, List.drop_length] at hmem
    cases hmem

/-- An entry is marked as not connected after its handles were passed on. -/
theorem Accounted.released (h : Accounted w) (henv : Passed w.trace .env (w.conn key).henv)
    (hdbc : Passed w.trace .dbc (w.conn key).hdbc) (f : ConnCacheEntry → ConnCacheEntry) :
    Accounted (w.setConn key f) := by
  refine h.next List.prefix_rfl ?_ ?_
  · intro k handleType hd hk hholds
    by_cases hkey : k = key
    · subst hkey
      refine .inr ?_
      cases handleType with
      | env =>
        cases hholds
        exact henv
      | dbc =>
        cases hholds
        exact hdbc
      | stmt => exact hholds.elim
    · refine .inl ⟨k, ⟨hk.1, ?_⟩, ?_⟩
      · rw [World.setConn_of_ne hkey]
        exact hk.2
      · rw [World.setConn_of_ne hkey]
        exact hholds
  · intro handleType inputHandle hd rc htype hmem
    rw [World.setConn, List.drop_length] at hmem
    cases hmem

/-! ## Disconnecting -/

theorem World.disconnected_passed (w : World) :
    Passed (w.disconnected env key).trace .dbc (w.conn key).hdbc ∧
      Passed (w.disconnected env key).trace .env (w.conn key).henv := by
  constructor
  · refine ⟨_, List.mem_append_left _ (List.mem_append_right _ (List.mem_singleton.mpr rfl))⟩
  · exact ⟨_, List.mem_append_right _ (List.mem_singleton.mpr rfl)⟩

theorem Accounted.called (h : Accounted w) {call : SqlCall} (hcall : call.ownsNothing = true) :
    Accounted (w.called env call) := h.issued fun _ => hcall

theorem Accounted.disconnected (h : Accounted w) : Accounted (w.disconnected env key) := by
  obtain ⟨hdbc, henv⟩ := @World.disconnected_passed env key w
  have h₁ : Accounted (w.called env (.disconnect (w.conn key).hdbc)) := h.called rfl
  have h₂ := @Accounted.called env _ h₁ (.freeHandle .dbc (w.conn key).hdbc) rfl
  have h₃ := @Accounted.called env _ h₂ (.freeHandle .env (w.conn key).henv) rfl
  exact h₃.released henv hdbc _

/-! ## Connecting -/

/-- The entry that was connected holds the two handles that were allocated. -/
theorem Accounted.connected {params : ConnParams} {u : Unit} (h : Accounted w)
    (hkey : key ∈ w.keys) (hno : (w.conn key).connected = false)
    (hrun : connectTbServer env key params w = .ok u w') : Accounted w' := by
  have hconn := connectTbServer_ok hrun
  have hcalls := connectTbServer_calls hrun
  have hlive : w'.Live key := ⟨by rw [hconn.keys]; exact hkey, by rw [hconn.entry]⟩
  refine h.next (hcalls ▸ List.prefix_append ..) ?_ ?_
  · rintro k handleType hd ⟨hk, hconnected⟩ hholds
    have hne : k ≠ key := by
      rintro rfl
      rw [hno] at hconnected
      cases hconnected
    refine .inl ⟨k, ⟨by rw [hconn.keys]; exact hk, ?_⟩, ?_⟩
    · rw [hconn.others k hne]
      exact hconnected
    · rw [hconn.others k hne]
      exact hholds
  · intro handleType inputHandle hd rc htype hmem hrc
    rw [hcalls, List.drop_left, connectingCalls] at hmem
    simp only [List.mem_cons, List.not_mem_nil, or_false] at hmem
    rcases hmem with heq | heq | heq | heq <;> cases heq
    · refine .inl ⟨key, hlive, ?_⟩
      rw [hconn.entry]
      exact rfl
    · refine .inl ⟨key, hlive, ?_⟩
      rw [hconn.entry]
      exact rfl

/-- An attempt whose environment is the `n`-th call, and `k` calls after it. -/
structure Attempting (env : Environment) (n k : Nat) (w : World) : Prop where
  started : w.trace[n]? = some ⟨.allocHandle .env SQL_NULL_HANDLE (n + 1), env.rc n⟩
  allocated : sqlSucceeded (env.rc n) = true
  length : w.trace.length = n + 1 + k

/-- One of the three calls that complete an attempt. -/
theorem Attempting.call {α : Type} {n k : Nat} (hk : k < 3) {m : Fdw α}
    (hpre : ∀ w, w.trace <+: (m w).next.trace)
    (hcalls : ∀ w a w', m w = .ok a w' → w'.trace.length = w.trace.length + 1)
    (hfails : ∀ w e w', m w = .raise e w' → ¬sqlSucceeded (w.nextRc env) = true) :
    Proc.Triple (Attempting env n k) m (fun _ => Attempting env n (k + 1))
      fun _ w => ¬Completes env w.trace := by
  intro w ha
  have hpre := hpre w
  rcases hrun : m w with ⟨a, w'⟩ | ⟨e, w'⟩
  · rw [hrun] at hpre
    refine ⟨getElem?_of_isPre hpre ha.started, ha.allocated, ?_⟩
    rw [hcalls w a w' hrun, ha.length]
    rfl
  · rw [hrun] at hpre
    intro hcompletes
    apply hfails w e w' hrun
    rw [World.nextRc, ha.length]
    exact hcompletes.attempt (getElem?_of_isPre hpre ha.started) ha.allocated hk

/-- Every call is added to the trace. -/
theorem SqlCall.keeps_prefix (calls : List Issued) (call : SqlCall) : call.Keeps (calls <+: ·) :=
  fun _ _ hpre => hpre.trans (List.prefix_append ..)

theorem checkReturn_fails {sqlerrcode : SqlState} {rc : SqlReturn} {e : PgError}
    (h : checkReturn env key sqlerrcode rc w = .raise e w') : ¬sqlSucceeded rc = true := by
  intro hrc
  rw [checkReturn, if_pos hrc] at h
  cases h

theorem Attempting.tbCall {n k : Nat} (hk : k < 3) (sqlerrcode : SqlState)
    (call : World → SqlCall) :
    Proc.Triple (Attempting env n k) (do
        let w ← Proc.read
        let rc ← issue env (call w)
        checkReturn env key sqlerrcode rc : Fdw Unit) (fun _ => Attempting env n (k + 1))
      fun _ w => ¬Completes env w.trace := by
  refine Attempting.call hk (fun w => ?_) ?_ ?_
  · have hkeeps : Proc.Keeps (fun w₁ : World => w.trace <+: w₁.trace) (do
        let w ← Proc.read
        let rc ← issue env (call w)
        checkReturn env key sqlerrcode rc : Fdw Unit) :=
      .read_bind fun _ => .bind (issue_keeps (SqlCall.keeps_prefix _ _)) fun _ =>
        checkReturn_keeps (fun _ _ => SqlCall.keeps_prefix _ _) _ _
    exact hkeeps.next List.prefix_rfl
  · intro w a w' hrun
    rw [Proc.read_bind_run, Proc.bind_of_ok (issue_run _), checkReturn_eq_ok] at hrun
    rw [hrun.2, World.called_length]
  · intro w e w' hrun
    rw [Proc.read_bind_run, Proc.bind_of_ok (issue_run _)] at hrun
    exact checkReturn_fails hrun

variable (key) in
theorem Attempting.allocDbc {n : Nat} (henv : Handle) :
    Proc.Triple (Attempting env n 1)
      (tbSqlAllocHandle env key .dbc henv fun h => modifyConn key fun c => { c with hdbc := h })
      (fun _ => Attempting env n 2) fun _ w => ¬Completes env w.trace := by
  refine Attempting.call (by decide) (fun w => ?_) ?_ ?_
  · have hkeeps : Proc.Keeps (fun w₁ : World => w.trace <+: w₁.trace) (tbSqlAllocHandle env key
        .dbc henv fun h => modifyConn key fun c => { c with hdbc := h }) :=
      .bind (sqlAllocHandle_keeps fun _ => SqlCall.keeps_prefix _ _) fun _ =>
        .bind (.modify fun _ hpre => hpre) fun _ =>
          .bind (checkReturn_keeps (fun _ _ => SqlCall.keeps_prefix _ _) _ _) fun _ => .pure _
    exact hkeeps.next List.prefix_rfl
  · intro w a w' hrun
    rw [tbSqlAllocHandle_conn_eq_ok] at hrun
    rw [hrun.2.2, World.setConn_trace, World.called_length]
  · intro w e w' hrun hrc
    rw [tbSqlAllocHandle_conn_eq_ok.mpr ⟨hrc, rfl, rfl⟩] at hrun
    cases hrun

/-- An attempt leaves all handles accounted for, unless it fails halfway. -/
theorem connectTbServer_accounted (params : ConnParams) :
    Proc.Triple (fun w => (Accounted w ∧ key ∈ w.keys) ∧ (w.conn key).connected = false)
      (connectTbServer env key params) (fun _ => Accounted)
      fun _ w => Completes env w.trace → Accounted w := by
  rintro w ⟨⟨h, hkey⟩, hno⟩
  rcases hrun : connectTbServer env key params w with ⟨u, w'⟩ | ⟨e, w'⟩
  · exact h.connected hkey hno hrun
  by_cases hrc : sqlSucceeded (w.nextRc env) = true
  · -- the environment was allocated: one of the calls after it has failed
    rw [connectTbServer, Proc.bind_of_ok (tbSqlAllocHandle_conn_eq_ok.mpr ⟨hrc, rfl, rfl⟩)] at hrun
    have hattr : Proc.Triple (Attempting env w.trace.length 0)
        (tbSqlSetEnvAttr env key SQL_ATTR_ODBC_VERSION SQL_OV_ODBC3)
        (fun _ => Attempting env w.trace.length 1) fun _ w => ¬Completes env w.trace :=
      Attempting.tbCall (by decide) .fdwError
        fun w => .setEnvAttr (w.conn key).henv SQL_ATTR_ODBC_VERSION SQL_OV_ODBC3
    have hdial : Proc.Triple (Attempting env w.trace.length 2)
        (tbSqlDriverConnect env key (connectionString params))
        (fun _ => Attempting env w.trace.length 3) fun _ w => ¬Completes env w.trace :=
      Attempting.tbCall (by decide) .fdwUnableToEstablishConnection
        fun w => .driverConnect (w.conn key).hdbc (connectionString params)
    have halloc := @Attempting.allocDbc env key w.trace.length (w.trace.length + 1)
    have hmark : Proc.Triple (Attempting env w.trace.length 3)
        (modifyConn key fun c => { c with connected := true }) (fun _ _ => True)
        fun _ w => ¬Completes env w.trace := .modify fun _ _ => trivial
    have hrest := hattr.bind fun _ => halloc.bind fun _ => hdial.bind fun _ => hmark
    refine fun hcompletes => (hrest.apply_raise ⟨?_, hrc, ?_⟩ hrun hcompletes).elim
    · simp [World.called, World.issued, World.nextRc, World.setConn]
    · simp
  · rw [connectTbServer, Proc.bind_of_raise (tbSqlAllocHandle_refused hrc hno)] at hrun
    cases hrun
    have hrefused : Accounted (w.called env (.allocHandle .env SQL_NULL_HANDLE SQL_NULL_HANDLE)) :=
      h.issued fun hrc' => (hrc hrc').elim
    refine fun _ => hrefused.of_conn rfl fun k hk => ?_
    have hne : k ≠ key := by
      rintro rfl
      have hyes := hk.2
      rw [World.called_conn, hno] at hyes
      cases hyes
    rw [World.Live, World.setConn_of_ne hne]
    exact ⟨hk, rfl, rfl⟩

/-! ## Rules -/

/-- The handles are accounted for, unless an attempt has failed halfway. -/
def Handled (env : Environment) (w : World) : Prop := Completes env w.trace → Accounted w

/-- What the functions on the entries keep. -/
structure Accounting (env : Environment) (w₀ w : World) : Prop where
  keys : w.keys = w₀.keys
  trouble : w.inErrorRecursionTrouble = w₀.inErrorRecursionTrouble
  handled : Handled env w

variable {w₀ : World}

theorem Accounting.step (h : Accounting env w₀ w) (hkeys : w'.keys = w.keys)
    (htrouble : w'.inErrorRecursionTrouble = w.inErrorRecursionTrouble)
    (hpre : w.trace <+: w'.trace) (hstep : Accounted w → Accounted w') : Accounting env w₀ w' :=
  ⟨hkeys.trans h.keys, htrouble.trans h.trouble,
    fun hcompletes => hstep (h.handled (hcompletes.of_prefix hpre))⟩

theorem Accounted.lookups (h : Accounted w) (lookups : Nat) : Accounted { w with lookups } :=
  h.of_conn rfl fun _ hk => ⟨hk, rfl, rfl⟩

theorem Accounted.setConn (h : Accounted w) {f : ConnCacheEntry → ConnCacheEntry}
    (hf : ∀ c, (f c).henv = c.henv ∧ (f c).hdbc = c.hdbc ∧ (f c).connected = c.connected) :
    Accounted (w.setConn key f) := by
  refine h.of_conn rfl fun k hk => ?_
  by_cases hkey : k = key
  · subst hkey
    obtain ⟨henv, hdbc, hconnected⟩ := hf (w.conn k)
    rw [World.Live, World.setConn_self]
    exact ⟨⟨hk.1, hconnected.trans hk.2⟩, henv, hdbc⟩
  · rw [World.Live, World.setConn_of_ne hkey]
    exact ⟨hk, rfl, rfl⟩

theorem Accounted.invalidated (h : Accounted w) (cacheid : CacheId) (hashvalue : Nat) :
    Accounted (w.invalidated cacheid hashvalue) := by
  refine h.of_conn rfl fun k hk => ?_
  have hconn : (w.invalidated cacheid hashvalue).conn k =
      invalidateEntry cacheid hashvalue (w.conn k) := if_pos hk.1
  rw [World.Live, hconn, invalidateEntry]
  split_ifs
  · exact ⟨hk, rfl, rfl⟩
  · exact ⟨hk, rfl, rfl⟩

theorem accounting_issue {call : SqlCall} (hcall : call.ownsNothing = true) :
    Proc.Keeps (Accounting env w₀) (issue env call) := fun _ h =>
  h.step rfl rfl (List.prefix_append ..) fun h => h.called hcall

variable (env w₀) in
theorem accounting_report (k : ConnCacheKey) :
    Proc.Keeps (Accounting env w₀) (dropConnection env k) := by
  intro w h
  rw [dropConnection_eq]
  split_ifs
  · refine h.step rfl rfl ?_ fun h => h.disconnected
    exact (List.prefix_append ..).trans ((List.prefix_append ..).trans (List.prefix_append ..))
  · exact h

theorem accounting_tbCall (k : ConnCacheKey) {call : SqlCall} (hcall : call.ownsNothing = true) :
    Proc.Keeps (Accounting env w₀) (tbCall env k call) := by
  refine .bind (accounting_issue hcall) fun rc => ?_
  rw [checkReturn]
  split_ifs
  · exact .pure _
  · exact .bind (accounting_report env w₀ k) fun _ => .raise _

/-- Disconnecting passes both handles before it forgets them. -/
theorem accounting_disconnect (k : ConnCacheKey) :
    Proc.Keeps (Accounting env w₀) (disconnectTbServer env k) := by
  intro w h
  rcases hrun : disconnectTbServer env k w with ⟨u, w'⟩ | ⟨e, w'⟩
  · rcases disconnectTbServer_ok hrun with ⟨-, rfl⟩ | ⟨-, rfl, -⟩
    · exact h
    · refine h.step rfl rfl ?_ fun h => h.disconnected
      exact (List.prefix_append ..).trans ((List.prefix_append ..).trans (List.prefix_append ..))
  · have hfails : Proc.Triple (Accounting env w₀) (disconnectTbServer env k) (fun _ _ => True)
        fun _ => Accounting env w₀ := by
      refine .look fun w => ?_
      rcases (w.conn k).connected with _ | _
      · exact .pure fun _ _ => trivial
      · refine .bind (.look fun w => accounting_tbCall k rfl) fun _ => ?_
        refine .bind (accounting_tbCall k rfl) fun _ => .bind (accounting_tbCall k rfl) fun _ => ?_
        exact .modify fun _ _ => trivial
    exact hfails.apply_raise h hrun

theorem lookupRules_accounting (key : ConnCacheKey) : LookupRules key (Accounting env w₀) where
  setConn _ _ hf h := h.step rfl rfl List.prefix_rfl fun h =>
    h.setConn fun c => ⟨hf.henv c, hf.hdbc c, hf.connected c⟩
  lookup _ lookups h := h.step rfl rfl List.prefix_rfl fun h => h.lookups lookups
  invalidated _ cacheid hashvalue h := h.step rfl rfl List.prefix_rfl fun h =>
    h.invalidated cacheid hashvalue

theorem connectTbServer_accounting (hkey : key ∈ w₀.keys) (params : ConnParams) :
    Proc.Triple (fun w => Accounting env w₀ w ∧ (w.conn key).connected = false)
      (connectTbServer env key params) (fun _ => Accounting env w₀) fun _ => Accounting env w₀ := by
  rintro w ⟨h, hno⟩
  have htouches := ((snapshotRules_touches env w key).connectTbServer params).next (.refl key w)
  have hmoment := ((snapshotRules_moment env key w.moment).connectTbServer params).next rfl
  have hconnect := fun haccounted : Accounted w =>
    @connectTbServer_accounted env key params w ⟨⟨haccounted, h.keys ▸ hkey⟩, hno⟩
  rcases hrun : connectTbServer env key params w with ⟨u, w'⟩ | ⟨e, w'⟩
  · rw [hrun] at htouches hmoment hconnect
    exact h.step htouches.keys (congrArg (·.inErrorRecursionTrouble) hmoment) htouches.trace
      hconnect
  · rw [hrun] at htouches hmoment hconnect
    refine ⟨htouches.keys.trans h.keys,
      (congrArg (·.inErrorRecursionTrouble) hmoment).trans h.trouble, fun hcompletes => ?_⟩
    exact hconnect (h.handled (hcompletes.of_prefix htouches.trace)) hcompletes

theorem sessionRules_accounting (hkey : key ∈ w₀.keys) (user : UserMapping) :
    SessionRules pg env key user (Accounting env w₀) where
  setConn w f hf h := (lookupRules_accounting key).setConn w f hf.toSameSession h
  issued w call rc hcall h := by
    refine h.step rfl rfl (List.prefix_append ..) fun h => h.issued fun _ => ?_
    cases call with
    | allocHandle handleType =>
      cases handleType with
      | stmt => rfl
      | env | dbc => exact hcall.elim
    | _ => rfl
  report := accounting_report env w₀ key
  disconnect := accounting_disconnect key
  makeTbConnection :=
    (lookupRules_accounting key).makeTbConnection (connectTbServer_accounting hkey) user

theorem Handled.of_accounting {α : Type} {m : Fdw α}
    (hm : ∀ w₀, Proc.Keeps (Accounting env w₀) m) : Proc.Keeps (Handled env) m := by
  intro w h
  have hrun := hm w w ⟨rfl, rfl, h⟩
  split at hrun
  · exact hrun.handled
  · exact hrun.handled

/-- **`get_tb_statement`** keeps the handles accounted for, on both exits: what an attempt has
connected is in its entry, and what was given up was passed to the driver. -/
theorem getTbStatement_handled (user : UserMapping) (tbStmt : TbStatement) (useFbQuery : Bool) :
    Proc.Keeps (Handled env) (getTbStatement pg env user tbStmt useFbQuery) := by
  refine .of_next fun w h => ?_
  have hentered : Handled env (w.entered env user.umid) := by
    rw [Handled, World.entered_trace]
    refine fun hcompletes => (h hcompletes).of_conn World.entered_trace fun k hk => ?_
    obtain ⟨hlive, hsame⟩ := World.entered_of_live env user.umid hk
    exact ⟨hlive, by rw [hsame], by rw [hsame]⟩
  have hkey : user.umid ∈ (w.entered env user.umid).keys := World.mem_entered_keys.mpr (.inl rfl)
  have hrules : SessionRules pg env user.umid user (Accounting env (w.entered env user.umid)) :=
    sessionRules_accounting hkey user
  have hnext := hrules.getTbStatement_next (fun w tsn h => h.step rfl rfl List.prefix_rfl fun h =>
    h.setConn fun _ => ⟨rfl, rfl, rfl⟩) ⟨rfl, rfl, hentered⟩ tbStmt useFbQuery
  exact hnext.handled

/-! ## The callbacks -/

theorem endRemoteXact_accounting (k : ConnCacheKey) (completionType : CompletionType) :
    Proc.Keeps (Accounting env w₀) (endRemoteXact env k completionType) := by
  refine .read_bind fun w => .when (.bind (.read_bind fun w => .bind (accounting_tbCall k rfl)
    fun _ => .modify fun w h => ?_) fun _ => .read_bind fun w => .when (accounting_disconnect k))
  exact h.step rfl rfl List.prefix_rfl fun h => h.setConn fun _ => ⟨rfl, rfl, rfl⟩

/-- In error recursion trouble, an abort only clears marks. -/
def XactEvent.forgets (event : XactEvent) (inErrorRecursionTrouble : Bool) : Bool :=
  inErrorRecursionTrouble && (event == .abort || event == .parallelAbort)

/-- No entry that is in a remote transaction has a connection. -/
def Unmarked (w : World) : Prop :=
  ∀ k ∈ w.keys, (w.conn k).beginRemoteXact = true → (w.conn k).connected = false

theorem xactCallbackEntry_accounting {event : XactEvent}
    (hevent : event.forgets w₀.inErrorRecursionTrouble = false) (k : ConnCacheKey) :
    Proc.Keeps (Accounting env w₀) (xactCallbackEntry env event k) := by
  intro w h
  rw [xactCallbackEntry, Proc.read_bind_run]
  refine Proc.Keeps.when (I := Accounting env w₀) ?_ w h
  cases event with
  | preCommit | parallelPreCommit => exact endRemoteXact_accounting k .commit
  | prePrepare | commit | parallelCommit | prepare => exact .pure _
  | abort | parallelAbort =>
    have hcalm : w.inErrorRecursionTrouble = false := by
      rw [h.trouble]
      simpa [XactEvent.forgets] using hevent
    dsimp only
    rw [hcalm]
    exact endRemoteXact_accounting k .rollback

/-- A mark that is clear already. -/
theorem xactCallbackEntry_unmarked {event : XactEvent}
    (hevent : event.forgets w₀.inErrorRecursionTrouble = true) {k : ConnCacheKey}
    (hk : k ∈ w₀.keys) :
    Proc.Keeps (fun w => Accounting env w₀ w ∧ Unmarked w) (xactCallbackEntry env event k) := by
  rintro w ⟨h, hunmarked⟩
  rw [XactEvent.forgets, Bool.and_eq_true, ← h.trouble] at hevent
  rw [xactCallbackEntry, Proc.read_bind_run]
  rcases hbegun : (w.conn k).beginRemoteXact with _ | _
  · exact ⟨h, hunmarked⟩
  · have hno := hunmarked k (h.keys ▸ hk) hbegun
    have hsame : w.setConn k (fun c => { c with connected := false }) = w := by
      apply World.setConn_eq_self
      rw [← hno]
    rw [Proc.when_true]
    cases event with
    | abort | parallelAbort =>
      dsimp only
      rw [hevent.1, if_pos rfl, modifyConn, Proc.modify_run, hsame]
      exact ⟨h, hunmarked⟩
    | _ => simp at hevent

/-- **The callback at the end of a transaction** keeps the handles accounted for,
unless it forgets a connection. -/
theorem tbfdwXactCallback_handled {event : XactEvent} (h : Handled env w)
    (hforgets : event.forgets w.inErrorRecursionTrouble = true → w.xactGotConnection = true →
      Unmarked w) : Handled env (tbfdwXactCallback env event w).next := by
  have hloop : ∀ {I : World → Prop}, (∀ w₁ useSleepOnSig, I w₁ → I { w₁ with useSleepOnSig }) →
      (∀ w₁ xactGotConnection, I w₁ → I { w₁ with xactGotConnection }) →
      (∀ k ∈ w.keys, Proc.Keeps I (xactCallbackEntry env event k)) → I w →
      I (tbfdwXactCallback env event w).next := by
    intro I hsleep hgot hentry hI
    rw [tbfdwXactCallback, Proc.read_bind_run]
    refine Proc.Keeps.next (.when ?_) hI
    refine .bind (.modify fun w₁ h₁ => hsleep w₁ true h₁) fun _ =>
      .bind (.forEach hentry) fun _ => ?_
    exact .bind (.modify fun w₁ h₁ => hgot w₁ false h₁) fun _ =>
      .modify fun w₁ h₁ => hsleep w₁ false h₁
  have hsleep : ∀ w₁ useSleepOnSig, Accounting env w w₁ →
      Accounting env w { w₁ with useSleepOnSig } := fun w₁ useSleepOnSig h₁ =>
    h₁.step rfl rfl List.prefix_rfl fun h => h.of_conn rfl fun _ hk => ⟨hk, rfl, rfl⟩
  have hgot : ∀ w₁ xactGotConnection, Accounting env w w₁ →
      Accounting env w { w₁ with xactGotConnection } := fun w₁ xactGotConnection h₁ =>
    h₁.step rfl rfl List.prefix_rfl fun h => h.of_conn rfl fun _ hk => ⟨hk, rfl, rfl⟩
  rcases hgotten : w.xactGotConnection with _ | _
  · rw [tbfdwXactCallback, Proc.read_bind_run, hgotten]
    exact h
  rcases hevent : event.forgets w.inErrorRecursionTrouble with _ | _
  · exact (hloop hsleep hgot (fun k _ => xactCallbackEntry_accounting hevent k)
      ⟨rfl, rfl, h⟩).handled
  · exact (hloop (I := fun w₁ => Accounting env w w₁ ∧ Unmarked w₁)
      (fun w₁ b h₁ => ⟨hsleep w₁ b h₁.1, h₁.2⟩) (fun w₁ b h₁ => ⟨hgot w₁ b h₁.1, h₁.2⟩)
      (fun k hk => xactCallbackEntry_unmarked hevent hk)
      ⟨⟨rfl, rfl, h⟩, hforgets hevent hgotten⟩).1.handled

/-! ## Runs -/

/-- A wrapper for a call on a statement. -/
def SqlCall.onStatement : SqlCall → Bool
  | .freeStmt _ _ | .execDirect _ _ | .prepare _ _ | .bindCol _ _ | .bindParameter _ _ _ _ => true
  | .setStmtAttr _ _ _ | .numResultCols _ => true
  | _ => false

end

/-- What may be called in `connection.c`, in any order. -/
inductive ConnectionOp : Type where
  | getTbStatement (user : UserMapping) (tbStmt : TbStatement) (useFbQuery : Bool)
  | call (conn : ConnCacheKey) (sqlCall : SqlCall) (hcall : sqlCall.onStatement = true)
  | describeCol (tbStmt : TbStatement) (colNo : Nat)
  | execute (tbStmt : TbStatement)
  | fetch (tbStmt : TbStatement)
  | xactEvent (event : XactEvent)
  | subxactEvent
  | invalidate (cacheid : CacheId) (hashvalue : Nat)
  /-- PostgreSQL goes on to another moment -/
  | moment (isolationUsesXactSnapshot : Bool) (statementStart : Int)
      (inErrorRecursionTrouble : Bool)

/-- One call of a backend on its connections. -/
def ConnectionOp.run (pg : Postgres) (env : Environment) : ConnectionOp → Fdw Unit
  | .getTbStatement user tbStmt useFbQuery => do
    let _ ← TiberoFdw.getTbStatement pg env user tbStmt useFbQuery
    pure ()
  | .call conn sqlCall _ => tbCall env conn sqlCall
  | .describeCol tbStmt colNo => do
    let _ ← tbSqlDescribeCol env tbStmt colNo
    pure ()
  | .execute tbStmt => do
    let _ ← tbSqlExecute env tbStmt
    pure ()
  | .fetch tbStmt => do
    let _ ← tbSqlFetch env tbStmt
    pure ()
  | .xactEvent event => tbfdwXactCallback env event
  | .subxactEvent => tbfdwSubxactCallback
  | .invalidate cacheid hashvalue => tbfdwInvalCallback cacheid hashvalue
  | .moment isolationUsesXactSnapshot statementStart inErrorRecursionTrouble =>
    Proc.modify fun w =>
      { w with isolationUsesXactSnapshot, statementStart, inErrorRecursionTrouble }

/-- One call, which returns or raises an error. -/
def ConnectionOp.step (pg : Postgres) (env : Environment) (op : ConnectionOp) (_ : Unit) :
    Fdw Unit :=
  (op.run pg env).onError fun _ => pure ()

/-- The calls one after the other, whatever each of them raises. -/
def runConnection (pg : Postgres) (env : Environment) (ops : List ConnectionOp) : Fdw Unit :=
  Proc.fold (ConnectionOp.step pg env) ops ()

/-- Whenever control leaves `connection.c`, the handles are accounted for. -/
def AlwaysAccounted (pg : Postgres) (env : Environment) (ops : List ConnectionOp) (w₀ : World) :
    Prop :=
  ∀ ops₁ ops₂ u w, ops = ops₁ ++ ops₂ → runConnection pg env ops₁ w₀ = .ok u w → Accounted w

/-- The callback at an abort in error recursion trouble finds no connection to forget. -/
def forgetsNothing (op : ConnectionOp) (w : World) : Bool :=
  match op with
  | .xactEvent event => !event.forgets w.inErrorRecursionTrouble || !w.xactGotConnection ||
    w.keys.all fun k => !(w.conn k).beginRemoteXact || !(w.conn k).connected
  | _ => true

section

variable {pg : Postgres} {env : Environment} {w w' : World}

/-- Catching the error leaves the world as it is. -/
theorem ConnectionOp.step_next (op : ConnectionOp) :
    (op.step pg env () w).next = (op.run pg env w).next := by
  rcases hrun : op.run pg env w with ⟨u, w'⟩ | ⟨e, w'⟩
  · rw [ConnectionOp.step, Proc.onError_of_ok hrun]
  · rw [ConnectionOp.step, Proc.onError_of_raise hrun]
    rfl

theorem ConnectionOp.step_handled {op : ConnectionOp} (hforgets : forgetsNothing op w = true)
    (h : Handled env w) : Handled env (op.step pg env () w).next := by
  rw [op.step_next]
  -- a failed call is reported, whichever it is
  have hcheck : ∀ {w₀ : World} k sqlerrcode rc,
      Proc.Keeps (Accounting env w₀) (checkReturn env k sqlerrcode rc) := by
    intro w₀ k sqlerrcode rc
    rw [checkReturn]
    split_ifs
    · exact .pure _
    · exact .bind (accounting_report env w₀ k) fun _ => .raise _
  have hsame : ∀ {w₁ : World}, w₁.trace = w.trace → w₁.keys = w.keys → w₁.conn = w.conn →
      Handled env w₁ := by
    intro w₁ htrace hkeys hconn hcompletes
    rw [htrace] at hcompletes
    refine (h hcompletes).of_conn htrace fun k hk => ?_
    rw [World.Live, hkeys, hconn]
    exact ⟨hk, rfl, rfl⟩
  cases op with
  | getTbStatement user tbStmt useFbQuery =>
    have hkeeps := @getTbStatement_handled pg env user tbStmt useFbQuery
    exact Proc.Keeps.next (.bind hkeeps fun _ => .pure _) h
  | call conn sqlCall hcall =>
    have howns : sqlCall.ownsNothing = true := by
      cases sqlCall with
      | allocHandle => cases hcall
      | _ => rfl
    exact Proc.Keeps.next (Handled.of_accounting fun w₀ => accounting_tbCall conn howns) h
  | describeCol tbStmt colNo =>
    refine Proc.Keeps.next (I := Handled env) (Handled.of_accounting fun w₀ => ?_) h
    have hcall := @accounting_tbCall env w₀ tbStmt.conn (.describeCol tbStmt.hstmt colNo) rfl
    refine .bind (.read_bind fun w => .bind hcall fun _ => .bind ?_ fun _ => .pure _)
      fun _ => .pure _
    rw [getTbTypeMaxStrSize]
    split
    · exact .pure _
    · exact .bind (.bind (accounting_report env w₀ _) fun _ => .raise _) fun _ => .pure _
  | execute tbStmt =>
    refine Proc.Keeps.next (I := Handled env) (Handled.of_accounting fun w₀ => ?_) h
    have hissue := fun params => @accounting_issue env w₀ (.execute tbStmt.hstmt params) rfl
    refine .bind (.bind (.read_bind fun w => hissue _) fun rc => ?_) fun _ => .pure _
    exact .bind (hcheck _ _ _) fun _ => .pure _
  | fetch tbStmt =>
    refine Proc.Keeps.next (I := Handled env) (Handled.of_accounting fun w₀ => ?_) h
    -- fetching allocates nothing
    have hfetch : Proc.Keeps (Accounting env w₀) (sqlFetch env tbStmt.hstmt) := by
      intro w₁ h₁
      rw [sqlFetch]
      split_ifs <;>
        exact h₁.step rfl rfl (List.prefix_append ..) fun h => h.issued fun _ => rfl
    refine .bind (.bind hfetch fun r => ?_) fun _ => .pure _
    dsimp only
    split_ifs
    · exact .pure _
    · exact .bind (hcheck _ _ _) fun _ => .pure _
  | xactEvent event =>
    refine tbfdwXactCallback_handled h fun hevent hgot k hk hbegun => ?_
    simp only [forgetsNothing, hevent, hgot, Bool.not_true, Bool.false_or,
      List.all_eq_true] at hforgets
    simpa [hbegun] using hforgets k hk
  | subxactEvent =>
    rw [ConnectionOp.run, tbfdwSubxactCallback, Proc.read_bind_run]
    rcases w.xactGotConnection with _ | _
    · exact h
    · exact hsame rfl rfl rfl
  | invalidate cacheid hashvalue =>
    have hkeeps : Accounted w → Accounted (w.invalidated cacheid hashvalue) :=
      fun h => h.invalidated cacheid hashvalue
    exact fun hcompletes => hkeeps (h hcompletes)
  | moment => exact hsame rfl rfl rfl

/-- **The handles are accounted for whenever control leaves `connection.c`**, in every
run where no connection attempt fails halfway and no callback forgets a connection. Each
environment and connection handle is then in a connected entry, or was passed to the call that
frees it. -/
theorem connectionHandles_accounted {ops : List ConnectionOp} {w₀ : World} (htrace : w₀.trace = [])
    (hmeet : Proc.StepsMeet (fun op _ w => forgetsNothing op w = true ∧
      Completes env (op.step pg env () w).next.trace) (ConnectionOp.step pg env) ops () w₀) :
    AlwaysAccounted pg env ops w₀ := by
  rintro ops₁ ops₂ u w rfl hrun
  have hstart : Accounted w₀ := by
    intro handleType inputHandle h rc _ hmem
    rw [htrace] at hmem
    cases hmem
  refine Proc.fold_ok (I := fun _ w => Accounted w) ?_ (hmeet.append hrun).1 hstart hrun
  rintro op ⟨⟩ w₁ ⟨⟩ w₂ ⟨hforgets, hcompletes⟩ h hstep
  have hhandled : Handled env (op.step pg env () w₁).next := op.step_handled hforgets fun _ => h
  rw [hstep] at hhandled hcompletes
  exact hhandled hcompletes

end

/-- Two transactions on one user mapping; it is invalidated between them. -/
def invalidatedBetween : List ConnectionOp :=
  [.getTbStatement .sample .zeroed false, .xactEvent .preCommit, .invalidate .userMappingOid 7,
    .getTbStatement .sample .zeroed false, .xactEvent .abort]

/-- A statement cannot be allocated: the connection is given up, and a new one is made. -/
theorem retried_accounted :
    AlwaysAccounted .small .failsAtStatement invalidatedBetween World.start :=
  connectionHandles_accounted rfl (by decide +kernel)

/-- The server refuses the connection. -/
def Environment.refusing : Environment :=
  { Environment.succeeding with rc := fun n => if n = 3 then -1 else SQL_SUCCESS }

/-- The environment and the connection handle of the attempt are lost. -/
theorem refusedConnection_leaks :
    ¬AlwaysAccounted .small .refusing [.getTbStatement .sample .zeroed false] World.start := by
  intro h
  obtain ⟨u, w, hrun, htest⟩ := Outcome.exists_of_okAnd
    (o := runConnection .small .refusing [.getTbStatement .sample .zeroed false] World.start)
    (p := fun _ w => w.trace.contains ⟨.allocHandle .env SQL_NULL_HANDLE 1, SQL_SUCCESS⟩ &&
      w.keys.all (fun k => !(w.conn k).connected) &&
      w.trace.all fun i =>
        match i.call with
        | .freeHandle _ _ => false
        | _ => true) (by decide +kernel)
  rw [Bool.and_eq_true, Bool.and_eq_true, List.all_eq_true, List.all_eq_true] at htest
  obtain ⟨⟨hmem, hlost⟩, hpassed⟩ := htest
  have haccounts := h _ [] u w rfl hrun .env _ 1 SQL_SUCCESS (by decide)
    (List.contains_iff_mem.mp hmem) rfl
  rcases haccounts with ⟨k, ⟨hk, hconnected⟩, -⟩ | ⟨rc, hfree⟩
  · have hno := hlost k hk
    rw [hconnected] at hno
    cases hno
  · cases hpassed _ hfree

end TiberoFdw
