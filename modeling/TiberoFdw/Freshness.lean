import TiberoFdw.Snapshots

/-!
# How fresh a snapshot is

What `get_tb_statement` hands out to a scan with a flashback query is a snapshot of
the running statement **exactly when none of the driver calls of its first attempt
fails**: the second attempt opens a session and fetches no TSN. The first attempt
takes a number of driver calls that the state of the entry decides (`Takes`).
-/

namespace TiberoFdw

/-- What a call that asks for the snapshot hands out. -/
structure SnapshotFresh (env : Environment) (since : Nat) (stmt : TbStatement) (w : World) :
    Prop where
  fetched : TsnFetchedSince env since (w.conn stmt.conn) w.trace
  stmtTs : (w.conn stmt.conn).stmtTs = w.statementStart
  tsn : stmt.tsn = (w.conn stmt.conn).tsn

section

variable {pg : Postgres} {env : Environment} {w w' : World} {key : ConnCacheKey} {α β : Type}

/-! ## The calls of an attempt -/

/-- The procedure takes `k` driver calls to return, and they succeed. An error of
a driver call comes from one of them. -/
def Takes (env : Environment) (k : Nat) (m : Fdw α) (w : World) : Prop :=
  match m w with
  | .ok _ w' => w.trace <+: w'.trace ∧ w'.trace.length = w.trace.length + k ∧
    (TsnAnswered env w'.trace → ∀ i < k, sqlSucceeded (env.rc (w.trace.length + i)) = true)
  | .raise e _ => e.sqlerrcode = .fdwError →
    ∃ i < k, ¬sqlSucceeded (env.rc (w.trace.length + i)) = true

namespace Takes

variable {k n : Nat} {m : Fdw α} {f : α → Fdw β}

theorem apply_ok {a : α} (h : Takes env k m w) (hrun : m w = .ok a w') :
    w.trace <+: w'.trace ∧ w'.trace.length = w.trace.length + k ∧
      (TsnAnswered env w'.trace → ∀ i < k, sqlSucceeded (env.rc (w.trace.length + i)) = true) := by
  rw [Takes, hrun] at h
  exact h

theorem apply_raise {e : PgError} (h : Takes env k m w) (hrun : m w = .raise e w')
    (hcode : e.sqlerrcode = .fdwError) :
    ∃ i < k, ¬sqlSucceeded (env.rc (w.trace.length + i)) = true := by
  rw [Takes, hrun] at h
  exact h hcode

/-- Nothing is called. -/
theorem none {a : α} (hrun : m w = .ok a w') (htrace : w'.trace = w.trace) : Takes env 0 m w := by
  rw [Takes, hrun]
  exact ⟨htrace ▸ List.prefix_rfl, by rw [htrace, Nat.add_zero],
    fun _ i hi => (Nat.not_lt_zero i hi).elim⟩

theorem pure (a : α) : Takes env 0 (Pure.pure a : Fdw α) w := none rfl rfl

/-- One call. -/
theorem one (call : SqlCall)
    (hok : ∀ a w', m w = .ok a w' → sqlSucceeded (w.nextRc env) = true ∧
      w'.trace = (w.called env call).trace)
    (hraise : ∀ e w', m w = .raise e w' → ¬sqlSucceeded (w.nextRc env) = true) :
    Takes env 1 m w := by
  rw [Takes]
  rcases hrun : m w with ⟨a, w'⟩ | ⟨e, w'⟩
  · obtain ⟨hrc, htrace⟩ := hok a w' hrun
    refine ⟨htrace ▸ List.prefix_append .., by rw [htrace, World.called_length], fun _ i hi => ?_⟩
    obtain rfl : i = 0 := by omega
    exact hrc
  · exact fun _ => ⟨0, Nat.one_pos, hraise e w' hrun⟩

theorem bind (hm : Takes env k m w)
    (hf : ∀ a w₁, m w = .ok a w₁ → Takes env n (f a) w₁) : Takes env (k + n) (m >>= f) w := by
  rw [Takes]
  rcases hrun : m w with ⟨a, w₁⟩ | ⟨e, w₁⟩
  · obtain ⟨hpre, hlen, hall⟩ := hm.apply_ok hrun
    have hrest := hf a w₁ hrun
    rw [Proc.bind_of_ok hrun]
    rcases hrun' : f a w₁ with ⟨b, w'⟩ | ⟨e, w'⟩
    · obtain ⟨hpre', hlen', hall'⟩ := hrest.apply_ok hrun'
      refine ⟨hpre.trans hpre', by omega, fun hanswered i hi => ?_⟩
      by_cases hlt : i < k
      · exact hall (hanswered.of_prefix hpre') i hlt
      · have := hall' hanswered (i - k) (by omega)
        rwa [hlen, show w.trace.length + k + (i - k) = w.trace.length + i by omega] at this
    · intro hcode
      obtain ⟨i, hi, hfails⟩ := hrest.apply_raise hrun' hcode
      refine ⟨k + i, by omega, ?_⟩
      rwa [hlen, Nat.add_assoc] at hfails
  · rw [Proc.bind_of_raise hrun]
    intro hcode
    obtain ⟨i, hi, hfails⟩ := hm.apply_raise hrun hcode
    exact ⟨i, by omega, hfails⟩

theorem read_bind {f : World → Fdw β} (h : Takes env k (f w) w) :
    Takes env k (Proc.read >>= f) w := h

theorem when {condition : Bool} {m : Fdw Unit} (hm : condition = true → Takes env k m w) :
    Takes env (if condition then k else 0) (Proc.when condition m) w := by
  cases condition
  · exact .pure ()
  · exact hm rfl

/-- The last step calls nothing. -/
theorem last (hm : Takes env k m w) (hf : ∀ a w₁, m w = .ok a w₁ → Takes env 0 (f a) w₁) :
    Takes env k (m >>= f) w := hm.bind hf

end Takes

/-- A call whose failure is reported. -/
theorem call_takes (sqlerrcode : SqlState) (call : SqlCall) :
    Takes env 1 (issue env call >>= checkReturn env key sqlerrcode) w := by
  refine .one call (fun u w' h => ?_) fun e w' h hrc => ?_
  · rw [Proc.bind_of_ok (issue_run call), checkReturn_eq_ok] at h
    obtain ⟨hrc, rfl⟩ := h
    exact ⟨hrc, rfl⟩
  · rw [Proc.bind_of_ok (issue_run call), checkReturn, if_pos hrc] at h
    cases h

theorem tbCall_takes (call : SqlCall) : Takes env 1 (tbCall env key call) w :=
  call_takes .fdwError call

theorem tbSqlAllocHandle_takes {handleType : HandleType} {inputHandle : Handle}
    {store : Handle → Fdw Unit} {g : Handle → World → World}
    (hstore : ∀ h w, store h w = .ok () (g h w)) (htrace : ∀ h w, (g h w).trace = w.trace) :
    Takes env 1 (tbSqlAllocHandle env key handleType inputHandle store) w := by
  refine .one (.allocHandle handleType inputHandle (w.trace.length + 1))
    (fun handle w' h => ?_) fun e w' h hrc => ?_
  · obtain ⟨hrc, rfl, rfl⟩ := (tbSqlAllocHandle_eq_ok hstore).mp h
    exact ⟨hrc, htrace _ _⟩
  · rw [(tbSqlAllocHandle_eq_ok hstore).mpr ⟨hrc, rfl, rfl⟩] at h
    cases h

theorem disconnectTbServer_takes :
    Takes env (if (w.conn key).connected then 3 else 0) (disconnectTbServer env key) w := by
  refine .read_bind (.when fun _ => ?_)
  refine Takes.bind (k := 1) (n := 2) (.read_bind (tbCall_takes _)) fun _ _ _ => ?_
  refine Takes.bind (k := 1) (n := 1) (tbCall_takes _) fun _ _ _ => ?_
  exact .last (tbCall_takes _) fun _ _ _ => .none rfl rfl

theorem connectTbServer_takes (params : ConnParams) :
    Takes env 4 (connectTbServer env key params) w := by
  refine Takes.bind (k := 1) (n := 3) ?_ fun henv _ _ => ?_
  · exact tbSqlAllocHandle_takes (g := fun h w => w.setConn key _) (fun _ _ => rfl) fun _ _ => rfl
  refine Takes.bind (k := 1) (n := 2) (.read_bind (tbCall_takes _)) fun _ _ _ => ?_
  refine Takes.bind (k := 1) (n := 1) ?_ fun hdbc _ _ => ?_
  · exact tbSqlAllocHandle_takes (g := fun h w => w.setConn key _) (fun _ _ => rfl) fun _ _ => rfl
  exact .last (.read_bind (call_takes _ _)) fun _ _ _ => .none rfl rfl

theorem makeTbConnection_takes (user : UserMapping) :
    Takes env 4 (makeTbConnection pg env key user) w := by
  obtain ⟨w₁, hserver, hdel, -⟩ := getForeignServer_run env user.serverid w
  have hserver' : Takes env 0 (getForeignServer env user.serverid) w := .none hserver hdel.trace
  refine hserver'.bind (n := 4) fun server w₁ _ => ?_
  refine Takes.bind (k := 0) (n := 4) (.none rfl rfl) fun _ w₂ _ => ?_
  refine Takes.bind (k := 0) (n := 4) ?_ fun params _ _ => connectTbServer_takes _
  rw [Takes]
  obtain ⟨keep, hnext⟩ := applyConnectionOptions_next w₂ key pg server.options
    ⟨none, none, none, none, none⟩
  rcases hrun : applyConnectionOptions pg key server.options ⟨none, none, none, none, none⟩ w₂ with
    ⟨params, w₃⟩ | ⟨e, w₃⟩
  · rw [hrun, Outcome.next_ok] at hnext
    subst hnext
    exact ⟨List.prefix_rfl, rfl, fun _ i hi => (Nat.not_lt_zero i hi).elim⟩
  · intro hcode
    rw [(applyConnectionOptions_raise hrun).1] at hcode
    cases hcode

/-- The driver calls that give the entry a connection that is up to date. -/
def ConnCacheEntry.connectCalls (conn : ConnCacheEntry) : Nat :=
  if conn.upToDate then 0 else if conn.connected then 7 else 4

theorem ensureConnection_takes (user : UserMapping) :
    Takes env (w.conn key).connectCalls (ensureConnection pg env key user) w := by
  rcases hconn : (w.conn key).connected with _ | _
  · have hcalls : (w.conn key).connectCalls = 0 + 4 := by
      simp [ConnCacheEntry.connectCalls, ConnCacheEntry.upToDate, hconn]
    rw [hcalls]
    refine .read_bind (Takes.bind (k := 0) ?_ fun _ w₁ h => .read_bind ?_)
    · rw [hconn]
      exact .pure ()
    · rw [hconn] at h
      cases h
      rw [hconn]
      exact makeTbConnection_takes user
  rcases hinv : (w.conn key).invalidated with _ | _
  · have hcalls : (w.conn key).connectCalls = 0 + 0 := by
      simp [ConnCacheEntry.connectCalls, ConnCacheEntry.upToDate, hconn, hinv]
    rw [hcalls]
    refine .read_bind (Takes.bind ?_ fun _ w₁ h => .read_bind ?_)
    · rw [hconn, hinv]
      exact .pure ()
    · rw [hconn, hinv] at h
      cases h
      rw [hconn]
      exact .pure ()
  · have hcalls : (w.conn key).connectCalls = 3 + 4 := by
      simp [ConnCacheEntry.connectCalls, ConnCacheEntry.upToDate, hconn, hinv]
    rw [hcalls]
    refine .read_bind (Takes.bind ?_ fun _ w₁ h => .read_bind ?_)
    · rw [hconn, hinv]
      have htakes : Takes env (if (w.conn key).connected then 3 else 0)
          (disconnectTbServer env key) w := disconnectTbServer_takes
      rw [hconn] at htakes
      exact htakes
    · rw [hconn, hinv] at h
      rcases disconnectTbServer_ok h with ⟨hfalse, -⟩ | ⟨-, rfl, -⟩
      · rw [hconn] at hfalse
        cases hfalse
      · rw [World.disconnected_connected]
        exact makeTbConnection_takes user

/-! ## Opening a statement -/

theorem tbSqlFetch_raise {tbStmt : TbStatement} {e : PgError}
    (h : tbSqlFetch env tbStmt w = .raise e w') : ¬sqlSucceeded (w.nextRc env) = true := by
  intro hrc
  rw [tbSqlFetch] at h
  rcases Proc.bind_eq_raise.mp h with hraise | ⟨⟨rc, batch⟩, w₁, hfetch, h⟩
  · rw [sqlFetch] at hraise
    split_ifs at hraise
  · have hrc' : rc = SQL_NO_DATA ∨ sqlSucceeded rc = true := by
      rw [sqlFetch] at hfetch
      split_ifs at hfetch <;> cases hfetch
      · exact .inr hrc
      · exact .inl rfl
      · exact .inr hrc
    dsimp only at h
    split_ifs at h with hdata
    · cases h
    · rw [checkReturn, if_pos (hrc'.resolve_left hdata)] at h
      cases h

theorem fetchTsn_takes (tbStmt : TbStatement) : Takes env 4 (fetchTsn env tbStmt) w := by
  rw [Takes]
  rcases hrun : fetchTsn env tbStmt w with ⟨u, w'⟩ | ⟨e, w'⟩
  · have hkeeps : Proc.Keeps (Touches tbStmt.conn w) (fetchTsn env tbStmt) :=
      (snapshotRules_touches env w tbStmt.conn).fetchTsn rfl
    have htouches := hkeeps.next (Touches.refl _ w)
    rw [hrun] at htouches
    exact ⟨htouches.trace, (fetchTsn_ok hrun).trace,
      fun hanswered => (fetchTsn_fetched hrun hanswered).succeeded⟩
  · intro _
    -- a call that fails is one of the four of the fetch
    have hfailed : ∀ {w₁ : World} (j : Nat), w₁.trace.length = w.trace.length + j → j < 4 →
        ¬sqlSucceeded (w₁.nextRc env) = true →
        ∃ i < 4, ¬sqlSucceeded (env.rc (w.trace.length + i)) = true := by
      intro w₁ j hlen hj hfails
      rw [World.nextRc, hlen] at hfails
      exact ⟨j, hj, hfails⟩
    -- an error comes from a call that did not succeed
    have hcall : ∀ {call : SqlCall} {w₁ : World} {e : PgError} {w' : World},
        tbCall env tbStmt.conn call w₁ = .raise e w' → ¬sqlSucceeded (w₁.nextRc env) = true := by
      intro call w₁ e w' h hrc
      have hok : tbCall env tbStmt.conn call w₁ = .ok () (w₁.called env call) :=
        tbCall_eq_ok.mpr ⟨hrc, rfl⟩
      rw [hok] at h
      cases h
    rw [fetchTsn] at hrun
    rcases Proc.bind_eq_raise.mp hrun with h | ⟨_, w₁, h₁, hrun⟩
    · exact hfailed 0 rfl (by omega) (hcall h)
    obtain ⟨-, rfl⟩ := tbCall_eq_ok.mp h₁
    rcases Proc.bind_eq_raise.mp hrun with h | ⟨_, w₂, h₂, hrun⟩
    · exact hfailed 1 (by simp) (by omega) (hcall h)
    obtain ⟨-, rfl⟩ := tbCall_eq_ok.mp h₂
    rcases Proc.bind_eq_raise.mp hrun with h | ⟨r, w₃, h₃, hrun⟩
    · exact hfailed 2 (by simp) (by omega) (tbSqlFetch_raise h)
    obtain ⟨rc, rfl, -⟩ := tbSqlFetch_ok h₃
    rcases Proc.bind_eq_raise.mp hrun with h | ⟨_, w₄, h₄, hrun⟩
    · exact (storeTsn_raisesOnly (E := fun _ => False) r.1 _ _ _ h).elim
    obtain ⟨tsn, rfl⟩ := storeTsn_ok h₄
    rcases Proc.bind_eq_raise.mp hrun with h | ⟨_, w₅, -, hrun⟩
    · exact hfailed 3 (by simp) (by omega) (hcall h)
    cases hrun

/-- The driver calls that open a statement on the connection of the entry. -/
def World.openCalls (w : World) (key : ConnCacheKey) (useFbQuery : Bool) : Nat :=
  1 + ((if !(w.conn key).beginRemoteXact then 2 else 0) +
    if useFbQuery && needRemoteSnapshot w key then 4 else 0)

/-- A begun remote transaction does not change what the snapshot depends on. -/
theorem beginRemoteXact_need {tbStmt : TbStatement} {isSerializable : Bool} {u : Unit}
    (h : beginRemoteXact env tbStmt isSerializable w = .ok u w') :
    needRemoteSnapshot w' tbStmt.conn = needRemoteSnapshot w tbStmt.conn := by
  obtain ⟨rfl, -⟩ := beginRemoteXact_ok h
  simp [needRemoteSnapshot, World.begun]

theorem openStatement_takes (tbStmt : TbStatement) (useFbQuery : Bool) :
    Takes env (w.openCalls tbStmt.conn useFbQuery) (openStatement env tbStmt useFbQuery) w := by
  refine Takes.bind (k := 1) ?_ fun stmt w₁ halloc => .read_bind ?_
  · refine .read_bind (.last ?_ fun _ _ _ => .pure _)
    exact tbSqlAllocHandle_takes (g := fun _ w => w) (fun _ _ => rfl) fun _ _ => rfl
  obtain ⟨rfl, rfl, -⟩ := allocStatement_ok halloc
  refine Takes.bind (.when fun _ => ?_) fun _ w₂ hbegin => .read_bind ?_
  · refine Takes.bind (k := 1) (n := 1) (.read_bind (tbCall_takes _)) fun _ _ _ => ?_
    exact .last (tbCall_takes _) fun _ _ _ => .none rfl rfl
  have hneed : needRemoteSnapshot w₂ tbStmt.conn = needRemoteSnapshot w tbStmt.conn := by
    rcases hb : (w.conn tbStmt.conn).beginRemoteXact with _ | _
    · rw [World.called_conn, hb, Bool.not_false, Proc.when_true] at hbegin
      have hsame := beginRemoteXact_need hbegin
      exact hsame
    · rw [World.called_conn, hb] at hbegin
      cases hbegin
      rfl
  rw [← hneed]
  exact .last (.when fun _ => fetchTsn_takes _) fun _ _ _ => .read_bind (.pure _)

/-! ## One call -/

/-- The driver calls of the first attempt of a call that asks for the snapshot: it
disconnects and connects, unless the connection is up to date, and opens a
statement. -/
def World.attemptLength (w : World) (key : ConnCacheKey) : Nat :=
  if w.reuses key then w.openCalls key true
  else (if key ∈ w.keys ∧ (w.conn key).connected = true then 7 else 4) + 7

theorem World.entered_connectCalls :
    ((w.entered env key).conn key).connectCalls =
      if w.reuses key then 0
      else if key ∈ w.keys ∧ (w.conn key).connected = true then 7 else 4 := by
  rw [ConnCacheEntry.connectCalls, World.entered_reuses]
  rcases hconn : ((w.entered env key).conn key).connected with _ | _
  · have hnot : ¬w.Live key := by
      intro hlive
      obtain ⟨⟨-, hyes⟩, -⟩ := World.entered_of_live env key hlive
      rw [hconn] at hyes
      cases hyes
    rw [World.Live] at hnot
    rw [if_neg hnot]
    rfl
  · have hlive := (World.entered_connected hconn).1
    rw [World.Live] at hlive
    rw [if_pos hlive]
    rfl

theorem tryTbStatement_takes {user : UserMapping} {tbStmt : TbStatement}
    (hconn : tbStmt.conn = key) (hiso : w.isolationUsesXactSnapshot = false)
    (hstarted : 0 < w.statementStart) :
    Takes env (w.attemptLength key) (tryTbStatement pg env user tbStmt true)
      (w.entered env key) := by
  subst hconn
  have hensure : Takes env _ (ensureConnection pg env tbStmt.conn user)
    (w.entered env tbStmt.conn) := ensureConnection_takes user
  rw [World.entered_connectCalls] at hensure
  rcases hreuses : w.reuses tbStmt.conn with _ | _
  · rw [hreuses] at hensure
    rw [World.attemptLength, hreuses]
    refine hensure.bind (n := 7) fun _ w₁ hrun => ?_
    have hopen : Takes env _ (openStatement env tbStmt true) w₁ := openStatement_takes tbStmt true
    rcases ensureConnection_stmtTs hrun with ⟨hup, -⟩ | ⟨-, hzero, hfresh⟩
    · rw [World.entered_reuses, hreuses] at hup
      cases hup
    have htouches := ensureConnection_touches hrun
    have hiso₁ : w₁.isolationUsesXactSnapshot = false := by
      rcases ensureConnection_ok hrun with ⟨-, rfl⟩ | ⟨-, hreplaced⟩
      · rw [World.entered_isolation, hiso]
      · rw [hreplaced.isolation, World.entered_isolation, hiso]
    have hneed : needRemoteSnapshot w₁ tbStmt.conn = true := by
      rw [needRemoteSnapshot, hiso₁, hzero, htouches.statementStart, World.entered_statementStart]
      simpa using Int.ne_of_lt hstarted
    -- a new connection has no snapshot yet, so one is fetched
    have hcalls : w₁.openCalls tbStmt.conn true = 7 := by
      rw [World.openCalls, hfresh, hneed]
      rfl
    rwa [hcalls] at hopen
  · rw [hreuses] at hensure
    rw [World.attemptLength, hreuses, if_pos rfl, ← Nat.zero_add (w.openCalls _ _)]
    refine hensure.bind fun _ w₁ hrun => ?_
    rcases ensureConnection_stmtTs hrun with ⟨-, rfl⟩ | ⟨hold, -⟩
    · have hopen : Takes env _ (openStatement env tbStmt true) (w.entered env tbStmt.conn) :=
        openStatement_takes tbStmt true
      have hsame := (World.entered_of_live env tbStmt.conn (World.reuses_iff.mp hreuses).1).2
      have hcalls : (w.entered env tbStmt.conn).openCalls tbStmt.conn true =
          w.openCalls tbStmt.conn true := by
        rw [World.openCalls, World.openCalls, needRemoteSnapshot, needRemoteSnapshot, hsame]
        simp
      rwa [hcalls] at hopen
    · rw [World.entered_reuses, hreuses] at hold
      cases hold

/-- The driver calls of the first attempt succeed. -/
def AttemptSucceeds (env : Environment) (w : World) (key : ConnCacheKey) : Prop :=
  ∀ i < w.attemptLength key, sqlSucceeded (env.rc (w.trace.length + i)) = true

/-- **What `get_tb_statement` hands out is fresh**, from every state that a backend
can reach, exactly when none of the calls of its first attempt fails. The second attempt asks
for no TSN, so a statement after a reconnection reads at the snapshot of an earlier one. -/
theorem getTbStatement_fresh_iff {ops : List BackendOp} {b : Backend} {w₀ : World}
    {user : UserMapping} {tbStmt stmt : TbStatement} (hkeys : w₀.keys = [])
    (hstarted : 0 < w₀.statementStart)
    (hclock : Proc.StepsMeet ClockRuns (BackendOp.step pg env) ops Backend.start w₀)
    (hrun : runBackend pg env ops Backend.start w₀ = .ok b w)
    (hiso : w.isolationUsesXactSnapshot = false)
    (hget : getTbStatement pg env user tbStmt true w = .ok stmt w')
    (hanswered : TsnAnswered env w'.trace) :
    SnapshotFresh env b.statementFrom stmt w' ↔ AttemptSucceeds env w user.umid := by
  have htouches := getTbStatement_touches pg env user tbStmt true w
  have hpre := htouches.trace
  rw [hget, World.entered_trace] at hpre
  rw [hget] at htouches
  have htime : w'.statementStart = w.statementStart := by
    have := htouches.statementStart
    rwa [World.entered_statementStart] at this
  have hkept := runBackend_snapshotsKept hkeys hstarted hclock hrun (hanswered.of_prefix hpre)
  have htakes : Takes env (w.attemptLength user.umid) (tryTbStatement pg env user
      { tbStmt with conn := user.umid } true) (w.entered env user.umid) :=
    tryTbStatement_takes rfl hiso hkept.started
  rcases getTbStatement_ok hget with htry | ⟨err, w₁, htry, hcode, hretry⟩
  · have hattempted := hkept.attempted rfl htry hanswered
    have hnow := hattempted.now rfl hiso
    -- the first attempt has fetched or kept the snapshot of this statement
    have hsucceeds := (htakes.apply_ok htry).2.2 hanswered
    rw [World.entered_trace] at hsucceeds
    refine ⟨fun _ => hsucceeds, fun _ => ⟨?_, ?_, ?_⟩⟩ <;> rw [hattempted.stmtConn]
    · exact hattempted.fetched hnow
    · rw [hnow, htime]
    · exact hattempted.tsn
  · -- the second attempt has left no snapshot
    obtain ⟨hconn, hzero⟩ := retryTbStatement_stmtTs hretry
    obtain ⟨i, hi, hfails⟩ := htakes.apply_raise htry hcode
    rw [World.entered_trace] at hfails
    refine ⟨fun hfresh => ?_, fun hsucceeds => (hfails (hsucceeds i hi)).elim⟩
    have hstmtTs := hfresh.stmtTs
    have hpos := hkept.started
    rw [hconn, hzero, htime] at hstmtTs
    omega

/-- What is said of every call that asks for the snapshot. -/
def HandsOutFresh (pg : Postgres) (env : Environment) (ops : List BackendOp) (w₀ : World) : Prop :=
  ∀ b w user tbStmt stmt w', runBackend pg env ops Backend.start w₀ = .ok b w →
    w.isolationUsesXactSnapshot = false → getTbStatement pg env user tbStmt true w = .ok stmt w' →
    TsnAnswered env w'.trace → SnapshotFresh env b.statementFrom stmt w'

end

/-- A driver whose queries all find a TSN. -/
def Environment.withTsn : Environment :=
  { Environment.succeeding with result := fun _ => [[some "7".toList]] }

/-- The first statement runs at the start of a backend. -/
def World.started : World := { World.start with statementStart := 1 }

theorem tsnAnswered_of_all {env : Environment} (hresult : env.result = Environment.withTsn.result)
    {calls : List Issued} (h : calls.all (fun i => i.rc != SQL_NO_DATA) = true) :
    TsnAnswered env calls := by
  intro n hstmt rc hexec hrc
  refine ⟨⟨"7".toList, [], [], by rw [hresult]; rfl⟩, fun hfetch => ?_⟩
  have hne := List.all_eq_true.mp h _ (List.mem_of_getElem? hfetch)
  simp at hne

/-- A driver that never fails hands out a snapshot of the second statement. -/
theorem secondStatement_fresh : ∃ stmt w', SnapshotFresh .withTsn 0 stmt w' := by
  obtain ⟨stmt, w', hget, hall⟩ := Outcome.exists_of_okAnd
    (o := getTbStatement Postgres.small .withTsn .sample .zeroed true
      { World.started with statementStart := 2 })
    (p := fun _ w' => w'.trace.all fun i => i.rc != SQL_NO_DATA) (by decide +kernel)
  have hclock : Proc.StepsMeet ClockRuns (BackendOp.step Postgres.small .withTsn)
      [.startStatement 2] .start World.started :=
    ⟨show (1 : Int) < 2 by decide, fun _ _ _ => trivial⟩
  refine ⟨stmt, w', (getTbStatement_fresh_iff rfl (by decide) hclock rfl rfl hget
    (tsnAnswered_of_all rfl hall)).mpr ?_⟩
  exact fun _ _ => rfl

/-- The allocation of the first statement fails once. -/
def Environment.failsAtStatement : Environment :=
  { Environment.withTsn with rc := fun n => if n = 4 then -1 else SQL_SUCCESS }

/-- The retry hands out a statement whose snapshot was never fetched. -/
theorem retried_not_fresh :
    ¬HandsOutFresh Postgres.small .failsAtStatement [.startStatement 2] World.started := by
  intro h
  obtain ⟨stmt, w', hget, htest⟩ := Outcome.exists_of_okAnd
    (o := getTbStatement Postgres.small .failsAtStatement .sample .zeroed true
      { World.started with statementStart := 2 })
    (p := fun stmt w' => w'.trace.all (fun i => i.rc != SQL_NO_DATA) &&
      (w'.conn stmt.conn).stmtTs != w'.statementStart) (by decide +kernel)
  rw [Bool.and_eq_true] at htest
  have hfresh := h _ _ .sample .zeroed stmt w' rfl rfl hget (tsnAnswered_of_all rfl htest.1)
  have hne := htest.2
  rw [hfresh.stmtTs] at hne
  simp at hne

end TiberoFdw
