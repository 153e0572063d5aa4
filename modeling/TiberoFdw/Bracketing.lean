import TiberoFdw.Transaction

/-!
# Bracketing of remote transactions

Over any sequence of local transactions, what one of them sends to a session is
nothing, or a begin with its own isolation level, statements, and the end that
matches its outcome. `PREPARE TRANSACTION` is neither refused nor ended, and an
abort in error recursion trouble ends nothing either: both leave the remote
transaction to the next local one. They are the only ways out.
-/

namespace TiberoFdw

/-! ## Local transactions -/

/-- How a local transaction ends. -/
inductive LocalOutcome : Type where
  | commit
  | abort
  | prepare
  deriving DecidableEq

/-- The events of an outcome, in order. -/
def LocalOutcome.events : LocalOutcome → List XactEvent
  | .commit => [.preCommit, .commit]
  | .abort => [.abort]
  | .prepare => [.prePrepare, .prepare]

/-- The end of a remote transaction that matches the outcome. A transaction that
was prepared is not ended yet. -/
def LocalOutcome.completion : LocalOutcome → Option CompletionType
  | .commit => some .commit
  | .abort => some .rollback
  | .prepare => none

/-- A local transaction. -/
structure LocalTxn where
  isolationUsesXactSnapshot : Bool
  ops : List TxnOp
  /-- `in_error_recursion_trouble()` when the transaction ends -/
  inErrorRecursionTrouble : Bool
  outcome : LocalOutcome

/-- Run a local transaction: its steps, and the callback events of its outcome. -/
def LocalTxn.run (pg : Postgres) (env : Environment) (t : LocalTxn) : Fdw Unit := do
  Proc.modify fun w => { w with isolationUsesXactSnapshot := t.isolationUsesXactSnapshot }
  let _ ← runOps pg env t.ops []
  Proc.modify fun w => { w with inErrorRecursionTrouble := t.inErrorRecursionTrouble }
  Proc.forEach t.outcome.events (tbfdwXactCallback env)

/-- No invalidation among the steps. -/
def TxnOp.isInvalidation : TxnOp → Bool
  | .invalidate _ _ => true
  | _ => false

/-- The step asks for a statement, so that a remote transaction is open after it. -/
def TxnOp.asksForStatement : TxnOp → Bool
  | .getStatement _ _ => true
  | _ => false

/-- The outcome ends remote transactions, or there are none: a transaction that
asks for a statement is neither prepared nor aborted in error recursion trouble. -/
def LocalTxn.EndsItsWork (t : LocalTxn) : Prop :=
  (∃ op ∈ t.ops, op.asksForStatement = true) →
    t.outcome = .commit ∨ (t.outcome = .abort ∧ t.inErrorRecursionTrouble = false)

/-- The commands that one session received in a local transaction: none, or a
begin, statements, and the end that matches the outcome. -/
def LocalTxn.Brackets (t : LocalTxn) (commands : List Command) : Prop :=
  commands = [] ∨ ∃ stmts completionType, (∀ c ∈ stmts, c = Command.statement) ∧
    t.outcome.completion = some completionType ∧
    commands = opening t.isolationUsesXactSnapshot ++ stmts ++ [.endTran completionType]

/-- A local transaction leaves no remote transaction behind. -/
structure Bracketed (t : LocalTxn) (w w' : World) : Prop where
  commands : ∀ hdbc, ∃ commands, t.Brackets commands ∧
    w'.remote.log hdbc = w.remote.log hdbc ++ commands
  begun : ∀ k ∈ w'.keys, (w'.conn k).beginRemoteXact = false

/-- Every transaction of the sequence runs to its end, and is bracketed. -/
def AllBracketed (pg : Postgres) (env : Environment) : List LocalTxn → World → Prop
  | [], _ => True
  | t :: rest, w => ∃ w', t.run pg env w = .ok () w' ∧ Bracketed t w w' ∧
    AllBracketed pg env rest w'

section

variable {pg : Postgres} {env : Environment} {w w' w₀ : World} {key : ConnCacheKey}
variable {stmts stmts' : List TbStatement}

/-! ## Inside a transaction -/

/-- Between two transactions: no remote transaction is open and no connection is
marked. -/
structure Idle (w : World) : Prop where
  consistent : Consistent w
  begun : ∀ k ∈ w.keys, (w.conn k).beginRemoteXact = false
  valid : ∀ k, w.Live k → (w.conn k).invalidated = false

/-- What a session has received since `w₀`: it is in a remote transaction, or it
was left alone. -/
def SessionLog (w₀ w : World) (hdbc : Handle) : Prop :=
  (∃ k, w.InXact k ∧ (w.conn k).hdbc = hdbc ∧ ∃ cs, (∀ c ∈ cs, c = Command.statement) ∧
    w.remote.log hdbc =
      w₀.remote.log hdbc ++ (opening w₀.isolationUsesXactSnapshot ++ cs)) ∨
  ((∀ k, w.InXact k → (w.conn k).hdbc ≠ hdbc) ∧ w.remote.log hdbc = w₀.remote.log hdbc)

/-- What holds inside a transaction that started in `w₀`. -/
structure Within (w₀ : World) (stmts : List TbStatement) (w : World) : Prop where
  consistent : Consistent w
  isolation : w.isolationUsesXactSnapshot = w₀.isolationUsesXactSnapshot
  valid : ∀ k, w.Live k → (w.conn k).invalidated = false
  connected : ∀ k ∈ w.keys, (w.conn k).beginRemoteXact = true → (w.conn k).connected = true
  handed : Handed stmts w
  xactGotConnection : stmts ≠ [] → w.xactGotConnection = true
  begun : stmts = [] → ∀ k ∈ w.keys, (w.conn k).beginRemoteXact = false
  log : ∀ hdbc, SessionLog w₀ w hdbc

theorem Idle.within (h : Idle w) : Within w [] w := by
  refine ⟨h.consistent, rfl, h.valid, ?_, fun _ hmem => (List.not_mem_nil hmem).elim,
    fun hne => (hne rfl).elim, fun _ => h.begun, fun hdbc => .inr ⟨?_, rfl⟩⟩
  · intro k hk hbegun
    rw [h.begun k hk] at hbegun
    cases hbegun
  · intro k hk
    have := h.begun k hk.1.1
    rw [hk.2] at this
    cases this

/-- The session of a statement that was asked for. -/
theorem SessionLog.of_got {stmt : TbStatement} (h : Within w₀ stmts w)
    (hgot : Got env key w w' stmt) (hsame : ∀ k, k ≠ key → w'.conn k = w.conn k) :
    SessionLog w₀ w' (w'.conn key).hdbc := by
  obtain ⟨cs, hcs, hlog⟩ := hgot.log
  have hlog' : w'.remote.log (w'.conn key).hdbc = w.remote.log (w'.conn key).hdbc ++
      ((if w.reuses key && (w.conn key).beginRemoteXact then []
        else opening w.isolationUsesXactSnapshot) ++ cs) := by
    rw [hlog, Remote.set_same]
  refine .inl ⟨key, ⟨hgot.live, hgot.begun⟩, rfl, ?_⟩
  rcases hcond : (w.reuses key && (w.conn key).beginRemoteXact) with _ | _
  · -- the session was in no remote transaction
    rw [hcond] at hlog'
    have hnone : ∀ k, w.InXact k → (w.conn k).hdbc ≠ (w'.conn key).hdbc := by
      intro k hk heq
      rcases hreuses : w.reuses key with _ | _
      · have hgt := (hgot.renewed hreuses).1
        have hfresh := h.consistent.fresh k hk.1
        rw [heq] at hfresh
        omega
      · rw [(hgot.reused hreuses).1] at heq
        obtain rfl := h.consistent.distinct k key hk.1 (World.reuses_iff.mp hreuses).1 heq
        rw [hreuses, hk.2] at hcond
        cases hcond
    rcases h.log (w'.conn key).hdbc with ⟨k, hk, heq, -⟩ | ⟨-, hold⟩
    · exact (hnone k hk heq).elim
    · refine ⟨cs, hcs, ?_⟩
      rw [hlog', hold, h.isolation]
      rfl
  · -- its remote transaction goes on
    rw [hcond] at hlog'
    rw [Bool.and_eq_true] at hcond
    obtain ⟨hhdbc, -⟩ := hgot.reused hcond.1
    have hin : w.InXact key := ⟨(World.reuses_iff.mp hcond.1).1, hcond.2⟩
    rcases h.log (w'.conn key).hdbc with ⟨k, hk, heq, cs₀, hcs₀, hold⟩ | ⟨hnone, -⟩
    · refine ⟨cs₀ ++ cs, ?_, ?_⟩
      · intro c hc
        rcases List.mem_append.mp hc with hc | hc
        · exact hcs₀ c hc
        · exact hcs c hc
      · rw [hlog', hold]
        simp
    · exact (hnone key hin hhdbc.symm).elim

/-- A statement is asked for. -/
theorem Within.getStatement {stmt : TbStatement} (hnone : ∀ n, env.deliveries n = [])
    (h : Within w₀ stmts w) (hgot : Got env key w w' stmt) :
    Within w₀ (stmts ++ [stmt]) w' := by
  have hsame := hgot.undisturbed hnone
  have hstays := hgot.stays h.consistent fun hin => h.valid key hin.1
  refine ⟨hgot.consistent, hgot.isolation.trans h.isolation, ?_, ?_, h.handed.of_got hgot hstays,
    fun _ => hgot.xactGotConnection, fun hno => by simp at hno, ?_⟩
  · intro k hk
    by_cases hne : k = key
    · rw [hne]
      exact hgot.invalidated
    · rw [World.Live, hsame k hne, hgot.keys] at hk
      rw [hsame k hne]
      exact h.valid k ⟨hk.1.resolve_left hne, hk.2⟩
  · intro k hk hbegun
    by_cases hne : k = key
    · rw [hne]
      exact hgot.live.2
    · rw [hsame k hne] at hbegun ⊢
      exact h.connected k (((hgot.keys k).mp hk).resolve_left hne) hbegun
  · intro hdbc
    by_cases heq : hdbc = (w'.conn key).hdbc
    · rw [heq]
      exact SessionLog.of_got h hgot hsame
    · obtain ⟨cs, -, hlog⟩ := hgot.log
      have hlog' : w'.remote.log hdbc = w.remote.log hdbc := by
        rw [hlog, Remote.set_of_ne heq]
      rcases h.log hdbc with ⟨k, hk, hk', cs, hcs, hold⟩ | ⟨hnone, hold⟩
      · obtain ⟨hin, hstay, -⟩ := hstays k hk
        exact .inl ⟨k, hin, hstay.trans hk', cs, hcs, hlog'.trans hold⟩
      · refine .inr ⟨fun k hk => ?_, hlog'.trans hold⟩
        by_cases hne : k = key
        · rw [hne]
          exact fun h => heq h.symm
        · rw [hsame k hne]
          rw [World.InXact, World.Live, hsame k hne, hgot.keys] at hk
          exact hnone k ⟨⟨hk.1.1.resolve_left hne, hk.1.2⟩, hk.2⟩

/-- A statement is executed. -/
theorem Within.insert {stmt stmt' : TbStatement} (h : Within w₀ stmts w) (hmem : stmt ∈ stmts)
    (hrun : tbSqlExecute env stmt w = .ok stmt' w') : Within w₀ stmts w' := by
  obtain ⟨-, k₀, hk₀, hsession⟩ := h.handed stmt hmem
  obtain ⟨hconn, hkeys, hgot, hiso, htrace, hremote⟩ :=
    execute_inXact h.consistent hk₀ hsession hrun
  have hin : ∀ k, w'.InXact k ↔ w.InXact k := by
    intro k
    rw [World.InXact, World.InXact, World.Live, World.Live, hconn, hkeys]
  refine ⟨?_, hiso.trans h.isolation, ?_, ?_, ?_, ?_, ?_, ?_⟩
  · refine h.consistent.of_same hkeys (by omega) ?_ (by rw [hremote]; rfl)
      (by simp [hremote, Remote.receive])
    intro k hk
    rw [hconn] at hk ⊢
    exact ⟨hk, rfl, id⟩
  · intro k hk
    rw [World.Live, hconn, hkeys] at hk
    rw [hconn]
    exact h.valid k hk
  · rw [hconn, hkeys]
    exact h.connected
  · intro s hs
    obtain ⟨hle, k, hk, hs'⟩ := h.handed s hs
    refine ⟨by omega, k, (hin k).mpr hk, ?_⟩
    rw [hconn, hremote]
    exact hs'
  · rw [hgot]
    exact h.xactGotConnection
  · rw [hconn, hkeys]
    exact h.begun
  · intro hdbc
    -- the statement reaches the log of its own session only
    have hlog : w'.remote.log hdbc = if hdbc = (w.conn k₀).hdbc then
        w.remote.log hdbc ++ [.statement] else w.remote.log hdbc := by
      rw [hremote]
      split_ifs with heq
      · rw [heq]
        exact Remote.set_same ..
      · exact Remote.set_of_ne heq
    rcases h.log hdbc with ⟨k, hk, hk', cs, hcs, hold⟩ | ⟨hnone, hold⟩
    · refine .inl ⟨k, (hin k).mpr hk, by rw [hconn, hk'], ?_⟩
      split_ifs at hlog
      · refine ⟨cs ++ [.statement], ?_, ?_⟩
        · intro c hc
          rcases List.mem_append.mp hc with hc | hc
          · exact hcs c hc
          · exact List.mem_singleton.mp hc
        · rw [hlog, hold]
          simp
      · exact ⟨cs, hcs, hlog.trans hold⟩
    · refine .inr ⟨fun k hk => ?_, ?_⟩
      · rw [hconn]
        exact hnone k ((hin k).mp hk)
      · rw [hlog, if_neg fun heq => hnone k₀ hk₀ heq.symm]
        exact hold

/-- **One step inside a transaction.** Each session is in its remote transaction or was left alone,
and the flag of its entry says which. -/
theorem Within.step {op : TxnOp} (hok : env.AllOk) (hnone : ∀ n, env.deliveries n = [])
    (hop : op.isInvalidation = false) (h : Within w₀ stmts w)
    (hrun : op.run pg env stmts w = .ok stmts' w') : Within w₀ stmts' w' := by
  cases op with
  | startStatement timestamp =>
    cases hrun
    exact ⟨h.consistent.congr rfl rfl rfl, h.isolation, h.valid, h.connected, h.handed,
      h.xactGotConnection, h.begun, h.log⟩
  | getStatement user useFbQuery =>
    obtain ⟨stmt, w₁, hget, hrun⟩ := Proc.bind_eq_ok.mp hrun
    cases hrun
    exact h.getStatement hnone (getTbStatement_got hok h.consistent hget)
  | insert i =>
    rw [TxnOp.run] at hrun
    rcases hi : stmts[i]? with _ | stmt
    · rw [hi] at hrun
      cases hrun
      exact h
    · rw [hi] at hrun
      obtain ⟨stmt', w₁, hexecute, hrun⟩ := Proc.bind_eq_ok.mp hrun
      cases hrun
      exact h.insert (List.mem_of_getElem? hi) hexecute
  | invalidate cacheid hashvalue => cases hop

theorem Within.of_runOps {ops : List TxnOp} (hok : env.AllOk) (hnone : ∀ n, env.deliveries n = [])
    (hops : ∀ op ∈ ops, op.isInvalidation = false) (h : Within w₀ stmts w)
    (hrun : runOps pg env ops stmts w = .ok stmts' w') : Within w₀ stmts' w' := by
  induction ops generalizing stmts w with
  | nil =>
    cases hrun
    exact h
  | cons op rest ih =>
    obtain ⟨stmts₁, w₁, hstep, hrun⟩ := Proc.bind_eq_ok.mp hrun
    refine ih (fun op hop => hops op (List.mem_cons_of_mem _ hop)) ?_ hrun
    exact h.step hok hnone (hops op (List.mem_cons_self ..)) hstep

/-- Without a request there is no statement. -/
theorem runOps_asks {ops : List TxnOp} (hrun : runOps pg env ops stmts w = .ok stmts' w')
    (hne : stmts' ≠ stmts) : ∃ op ∈ ops, op.asksForStatement = true := by
  induction ops generalizing stmts w with
  | nil =>
    cases hrun
    exact (hne rfl).elim
  | cons op rest ih =>
    obtain ⟨stmts₁, w₁, hstep, hrun⟩ := Proc.bind_eq_ok.mp hrun
    by_cases hsame : stmts₁ = stmts
    · rw [← hsame] at hne
      obtain ⟨op', hmem, hasks⟩ := ih hrun hne
      exact ⟨op', List.mem_cons_of_mem _ hmem, hasks⟩
    · refine ⟨op, List.mem_cons_self .., ?_⟩
      cases op with
      | getStatement user useFbQuery => rfl
      | startStatement timestamp =>
        cases hstep
        exact (hsame rfl).elim
      | insert i =>
        rw [TxnOp.run] at hstep
        rcases hi : stmts[i]? with _ | stmt
        · rw [hi] at hstep
          cases hstep
          exact (hsame rfl).elim
        · rw [hi] at hstep
          obtain ⟨stmt', w₂, -, hstep⟩ := Proc.bind_eq_ok.mp hstep
          cases hstep
          exact (hsame rfl).elim
      | invalidate cacheid hashvalue =>
        obtain ⟨u, w₂, -, hstep⟩ := Proc.bind_eq_ok.mp hstep
        cases hstep
        exact (hsame rfl).elim

/-! ## The end of a transaction -/

/-- A callback that finds no remote transaction changes no connection. -/
theorem tbfdwXactCallback_idle {event : XactEvent} {u : Unit}
    (hidle : ∀ k ∈ w.keys, (w.conn k).beginRemoteXact = false)
    (hrun : tbfdwXactCallback env event w = .ok u w') :
    w'.keys = w.keys ∧ w'.conn = w.conn ∧ w'.trace = w.trace := by
  have hloop : ∀ (ks : List ConnCacheKey) (w : World),
      (∀ k ∈ ks, (w.conn k).beginRemoteXact = false) →
      Proc.forEach ks (xactCallbackEntry env event) w = .ok () w := by
    intro ks
    induction ks with
    | nil => exact fun _ _ => rfl
    | cons k rest ih =>
      intro w hks
      have hentry : xactCallbackEntry env event k w = .ok () w := by
        rw [xactCallbackEntry, Proc.read_bind_run, hks k (List.mem_cons_self ..)]
        rfl
      rw [Proc.forEach_cons, Proc.bind_of_ok hentry]
      exact ih w fun k' hk' => hks k' (List.mem_cons_of_mem _ hk')
  rw [tbfdwXactCallback, Proc.read_bind_run] at hrun
  rcases hgot : w.xactGotConnection with _ | _
  · rw [hgot] at hrun
    cases hrun
    exact ⟨rfl, rfl, rfl⟩
  · rw [hgot, Proc.when_true, setSleepOnSigOn, Proc.modify_bind_run,
      Proc.bind_of_ok (hloop w.keys { w with useSleepOnSig := true } hidle)] at hrun
    cases hrun
    exact ⟨rfl, rfl, rfl⟩

theorem tbfdwXactCallbacks_idle {events : List XactEvent} {u : Unit}
    (hidle : ∀ k ∈ w.keys, (w.conn k).beginRemoteXact = false)
    (hrun : Proc.forEach events (tbfdwXactCallback env) w = .ok u w') :
    w'.keys = w.keys ∧ w'.conn = w.conn ∧ w'.trace = w.trace := by
  induction events generalizing w with
  | nil =>
    cases hrun
    exact ⟨rfl, rfl, rfl⟩
  | cons event rest ih =>
    obtain ⟨_, w₁, hevent, hrun⟩ := Proc.bind_eq_ok.mp hrun
    obtain ⟨hkeys, hconn, htrace⟩ := tbfdwXactCallback_idle hidle hevent
    obtain ⟨hkeys', hconn', htrace'⟩ := ih (by rw [hkeys, hconn]; exact hidle) hrun
    exact ⟨hkeys'.trans hkeys, hconn'.trans hconn, htrace'.trans htrace⟩

/-- The end of a transaction that got no statement. -/
theorem Within.end_idle {t : LocalTxn} {u : Unit} (h : Within w₀ [] w)
    (hrun : Proc.forEach t.outcome.events (tbfdwXactCallback env) w = .ok u w') :
    Bracketed t w₀ w' ∧ Idle w' := by
  have hbegun := h.begun rfl
  obtain ⟨hkeys, hconn, htrace⟩ := tbfdwXactCallbacks_idle hbegun hrun
  have hremote : w'.remote = w.remote := by rw [World.remote, World.remote, htrace]
  have hbegun' : ∀ k ∈ w'.keys, (w'.conn k).beginRemoteXact = false := by
    rw [hkeys, hconn]
    exact hbegun
  refine ⟨⟨fun hdbc => ⟨[], .inl rfl, ?_⟩, hbegun'⟩, h.consistent.congr hkeys hconn htrace, hbegun',
    ?_⟩
  · rw [hremote, List.append_nil]
    rcases h.log hdbc with ⟨k, hk, -⟩ | ⟨-, hlog⟩
    · have := hbegun k hk.1.1
      rw [hk.2] at this
      cases this
    · exact hlog
  · intro k hk
    rw [World.Live, hkeys, hconn] at hk
    rw [hconn]
    exact h.valid k hk

/-- The end of a transaction, once its remote transactions were ended. -/
theorem Within.end_closed {t : LocalTxn} {completionType : CompletionType}
    (h : Within w₀ stmts w) (hiso : w₀.isolationUsesXactSnapshot = t.isolationUsesXactSnapshot)
    (hcompletion : t.outcome.completion = some completionType)
    (hclosed : Closed completionType w.keys w w') : Bracketed t w₀ w' ∧ Idle w' := by
  have hbegun : ∀ k ∈ w'.keys, (w'.conn k).beginRemoteXact = false := by
    intro k hk
    rw [hclosed.keys] at hk
    apply hclosed.begun k hk
    rcases hb : (w.conn k).beginRemoteXact with _ | _
    · exact .inr rfl
    · exact .inl (h.connected k hk hb)
  refine ⟨⟨fun hdbc => ?_, hbegun⟩, hclosed.consistent, hbegun, ?_⟩
  · rcases h.log hdbc with ⟨k, hk, hk', cs, hcs, hlog⟩ | ⟨hnone, hlog⟩
    · have hended := hclosed.ended k hk.1.1 hk
      rw [hk', hlog] at hended
      refine ⟨_, .inr ⟨cs, completionType, hcs, hcompletion, rfl⟩, ?_⟩
      rw [hended, hiso, List.append_assoc]
    · refine ⟨[], .inl rfl, ?_⟩
      rw [List.append_nil, hclosed.log hdbc fun k _ hk heq => hnone k hk heq.symm]
      exact hlog
  · intro k hk
    obtain ⟨hmark, hconn⟩ := hclosed.marks k
    rw [hmark]
    exact h.valid k ⟨hclosed.keys ▸ hk.1, hconn hk.2⟩

theorem LocalTxn.run_raisesOnly (hok : env.AllOk) (t : LocalTxn) :
    Proc.RaisesOnly (BadOption pg env) (t.run pg env) := by
  refine Proc.RaisesOnly.bind (Proc.RaisesOnly.modify _) fun _ => Proc.RaisesOnly.bind
    (Proc.RaisesOnly.fold (fun op stmts => ?_) _ _) fun _ => Proc.RaisesOnly.bind
    (Proc.RaisesOnly.modify _) fun _ => Proc.RaisesOnly.forEach fun event =>
      tbfdwXactCallback_raisesOnly hok event
  cases op with
  | startStatement timestamp =>
    exact Proc.RaisesOnly.bind (Proc.RaisesOnly.modify _) fun _ => Proc.RaisesOnly.pure _
  | getStatement user useFbQuery =>
    exact Proc.RaisesOnly.bind (getTbStatement_raisesOnly hok _ _ _) fun _ =>
      Proc.RaisesOnly.pure _
  | insert i =>
    rw [TxnOp.run]
    rcases stmts[i]? with _ | stmt
    · exact Proc.RaisesOnly.pure _
    · exact Proc.RaisesOnly.bind (tbSqlExecute_raisesOnly hok stmt) fun _ =>
        Proc.RaisesOnly.pure _
  | invalidate cacheid hashvalue =>
    refine Proc.RaisesOnly.bind ?_ fun _ => Proc.RaisesOnly.pure _
    exact Proc.RaisesOnly.bind (Proc.RaisesOnly.modify _) fun _ =>
      Proc.RaisesOnly.bind (Proc.RaisesOnly.modify _) fun _ => Proc.RaisesOnly.modify _

/-- **One local transaction** runs to its end, is bracketed, and leaves nothing behind: it ends in
an idle state, from which the next one starts. -/
theorem LocalTxn.run_bracketed {t : LocalTxn} (hok : env.AllOk) (hvalid : env.OptionsValid pg)
    (hnone : ∀ n, env.deliveries n = []) (hops : ∀ op ∈ t.ops, op.isInvalidation = false)
    (hends : t.EndsItsWork) (h : Idle w) :
    ∃ w', t.run pg env w = .ok () w' ∧ Bracketed t w w' ∧ Idle w' := by
  obtain ⟨u, w', hrun⟩ := Proc.RaisesOnly.returns
    (fun s e s' hraise => (LocalTxn.run_raisesOnly hok t s e s' hraise).2 hvalid) w
  refine ⟨w', hrun, ?_⟩
  have hstart : Idle { w with isolationUsesXactSnapshot := t.isolationUsesXactSnapshot } :=
    ⟨h.consistent.congr rfl rfl rfl, h.begun, h.valid⟩
  rw [LocalTxn.run, Proc.modify_bind_run] at hrun
  obtain ⟨stmts, w₁, hops', hrun⟩ := Proc.bind_eq_ok.mp hrun
  rw [Proc.modify_bind_run] at hrun
  have h₁ := hstart.within.of_runOps hok hnone hops hops'
  have h₂ : Within { w with isolationUsesXactSnapshot := t.isolationUsesXactSnapshot } stmts
      { w₁ with inErrorRecursionTrouble := t.inErrorRecursionTrouble } :=
    ⟨h₁.consistent.congr rfl rfl rfl, h₁.isolation, h₁.valid, h₁.connected, h₁.handed,
      h₁.xactGotConnection, h₁.begun, h₁.log⟩
  by_cases hstmts : stmts = []
  · subst hstmts
    obtain ⟨hb, hi⟩ := h₂.end_idle (t := t) hrun
    exact ⟨⟨hb.commands, hb.begun⟩, hi⟩
  · -- the transaction has statements, so its outcome ends their remote transactions
    have hgot := h₁.xactGotConnection hstmts
    rcases hends (runOps_asks hops' hstmts) with hcommit | ⟨habort, htrouble⟩
    · rw [hcommit] at hrun
      obtain ⟨_, w₂, hevent, hrun⟩ := Proc.bind_eq_ok.mp hrun
      obtain ⟨hclosed, hdone⟩ := tbfdwXactCallback_closed
        (show XactEvent.preCommit.completion = some .commit from rfl)
        (fun hno => by cases hno) h₂.consistent hgot hevent
      -- the second event finds nothing to do
      have hw' : w' = w₂ := by
        obtain ⟨_, w₃, hevent, hrun⟩ := Proc.bind_eq_ok.mp hrun
        rw [tbfdwXactCallback, Proc.read_bind_run, hdone] at hevent
        cases hevent
        cases hrun
        rfl
      obtain ⟨hb, hi⟩ := h₂.end_closed rfl (by rw [hcommit]; rfl) hclosed
      rw [hw']
      exact ⟨⟨hb.commands, hb.begun⟩, hi⟩
    · rw [habort] at hrun
      obtain ⟨_, w₂, hevent, hrun⟩ := Proc.bind_eq_ok.mp hrun
      cases hrun
      obtain ⟨hclosed, -⟩ := tbfdwXactCallback_closed
        (show XactEvent.abort.completion = some .rollback from rfl)
        (fun _ => htrouble) h₂.consistent hgot hevent
      obtain ⟨hb, hi⟩ := h₂.end_closed rfl (by rw [habort]; rfl) hclosed
      exact ⟨⟨hb.commands, hb.begun⟩, hi⟩

/-- **Remote transactions are bracketed** over every sequence of local ones in
which no transaction that asks for a statement is prepared, or aborted in error
recursion trouble. The next transaction then always starts on connections whose remote
transaction has ended. -/
theorem allBracketed {txns : List LocalTxn} (hok : env.AllOk) (hvalid : env.OptionsValid pg)
    (hnone : ∀ n, env.deliveries n = [])
    (hops : ∀ t ∈ txns, ∀ op ∈ t.ops, op.isInvalidation = false)
    (hends : ∀ t ∈ txns, t.EndsItsWork) (hkeys : w.keys = []) (htrace : w.trace = []) :
    AllBracketed pg env txns w := by
  have hidle : Idle w := by
    refine ⟨(show Reachable pg w from .start hkeys htrace).consistent,
      fun k hk => ?_, fun k hk => ?_⟩
    · rw [hkeys] at hk
      cases hk
    · have := hk.1
      rw [hkeys] at this
      cases this
  clear hkeys htrace
  induction txns generalizing w with
  | nil => trivial
  | cons t rest ih =>
    obtain ⟨w', hrun, hbracketed, hidle'⟩ := LocalTxn.run_bracketed hok hvalid hnone
      (hops t (List.mem_cons_self ..)) (hends t (List.mem_cons_self ..)) hidle
    refine ⟨w', hrun, hbracketed, ih (fun t ht => hops t (List.mem_cons_of_mem _ ht))
      (fun t ht => hends t (List.mem_cons_of_mem _ ht)) hidle'⟩

end

/-- A transaction with an insert, ended as told. -/
def LocalTxn.sample (isolationUsesXactSnapshot : Bool) (outcome : LocalOutcome) : LocalTxn where
  isolationUsesXactSnapshot := isolationUsesXactSnapshot
  ops := [.getStatement .sample false, .insert 0]
  inErrorRecursionTrouble := false
  outcome := outcome

/-- A commit and an abort, under different isolation levels. -/
theorem commitAndAbort_bracketed :
    AllBracketed Postgres.small .succeeding
      [.sample true .commit, .sample false .abort] .start := by
  refine allBracketed Environment.succeeding_allOk ?_ (fun _ => rfl) (by decide) ?_ rfl rfl
  · exact fun _ _ _ hmem => (List.not_mem_nil hmem).elim
  · intro t ht _
    rcases List.mem_cons.mp ht with rfl | ht
    · exact .inl rfl
    · obtain rfl := List.mem_singleton.mp ht
      exact .inr ⟨rfl, rfl⟩

/-- A prepared transaction leaves its remote transaction behind. -/
theorem prepare_not_bracketed :
    ¬AllBracketed Postgres.small .succeeding [.sample true .prepare] .start := by
  rintro ⟨w', hrun, hbracketed, -⟩
  have hw' : ((LocalTxn.sample true .prepare).run Postgres.small .succeeding .start).next = w' := by
    rw [hrun, Outcome.next_ok]
  subst hw'
  have hbegun := hbracketed.begun 1 (by decide +kernel)
  revert hbegun
  decide +kernel

end TiberoFdw
