import TiberoFdw.OneEntry
import TiberoFdw.Transaction

/-!
# Errors of the commit callback

At `XACT_EVENT_PRE_COMMIT` the callback commits the remote transaction, and then it may
close the connection: because the connection is marked, or because it is not to be kept.
Closing takes three calls whose return codes are checked, when the remote part of the
transaction is durable already. An error of any of them aborts the local part.
-/

namespace TiberoFdw

/-- The callback has called `SQLEndTran` on the entry, and it did not succeed. -/
def CommitFails (env : Environment) (w : World) (key : ConnCacheKey) : Prop :=
  ∃ rc, sqlSucceeded rc = false ∧ ⟨.endTran (w.conn key).hdbc .commit, rc⟩ ∈
    (tbfdwXactCallback env .preCommit w).next.trace.drop w.trace.length

/-- What is said of the callback when one entry has an open remote transaction. -/
def RaisesOnFailedCommit (env : Environment) (w : World) (key : ConnCacheKey) : Prop :=
  (tbfdwXactCallback env .preCommit w).isOk = false ↔ CommitFails env w key

/-- The connection is closed after the commit. -/
def closesAfterCommit (conn : ConnCacheEntry) : Bool := conn.invalidated || !conn.keepConnections

/-- The three calls that close a connection succeed, the `n`-th and the next ones. -/
def closesCleanly (env : Environment) (n : Nat) : Bool :=
  sqlSucceeded (env.rc n) && sqlSucceeded (env.rc (n + 1)) && sqlSucceeded (env.rc (n + 2))

/-- Nothing goes wrong after the commit: it is not reached, or fails itself, or the
connection stays, or is closed without an error. -/
def undisturbed (env : Environment) (w : World) (key : ConnCacheKey) : Bool :=
  !w.xactGotConnection || !sqlSucceeded (env.rc w.trace.length) ||
    !closesAfterCommit (w.conn key) || closesCleanly env (w.trace.length + 1)

section

variable {env : Environment} {w w' : World} {key : ConnCacheKey}

/-! ## Which calls must succeed -/

theorem tbCall_bind_isOk {α : Type} (call : SqlCall) (f : Unit → Fdw α) :
    ((tbCall env key call >>= f) w).isOk =
      (sqlSucceeded (w.nextRc env) && (f () (w.called env call)).isOk) := by
  rcases hrc : sqlSucceeded (w.nextRc env) with _ | _
  · rw [Proc.bind_of_raise (tbCall_fails_run (by simp [hrc]))]
    rfl
  · rw [Proc.bind_of_ok ((tbCall_eq_ok (u := ())).mpr ⟨hrc, rfl⟩)]
    rfl

theorem disconnectTbServer_isOk (hconn : (w.conn key).connected = true) :
    (disconnectTbServer env key w).isOk = closesCleanly env w.trace.length := by
  rw [disconnectTbServer, Proc.read_bind_run, hconn, Proc.when_true, tbSqlDisconnect]
  change ((tbCall env key (.disconnect (w.conn key).hdbc) >>= _) w).isOk = _
  rw [tbCall_bind_isOk, tbSqlFreeHandle, tbCall_bind_isOk, tbSqlFreeHandle, tbCall_bind_isOk]
  simp [closesCleanly, World.nextRc, modifyConn, Bool.and_assoc]

/-! ## The commit -/

/-- A call that fails is reported. -/
theorem endRemoteXact_fails {completionType : CompletionType}
    (hconn : (w.conn key).connected = true) (hrc : ¬sqlSucceeded (w.nextRc env) = true) :
    endRemoteXact env key completionType w =
      .raise ⟨.fdwError, returnCodeMessage (w.nextRc env)⟩ (dropConnection env key
        (w.called env (.endTran (w.conn key).hdbc completionType))).next := by
  rw [endRemoteXact, Proc.read_bind_run, hconn, Proc.when_true]
  apply Proc.bind_of_raise
  rw [tbSqlEndTran, Proc.read_bind_run]
  exact Proc.bind_of_raise (tbCall_fails_run hrc)

/-- The world after a call that ended the transaction. -/
def World.completed (w : World) (env : Environment) (key : ConnCacheKey)
    (completionType : CompletionType) : World :=
  (w.called env (.endTran (w.conn key).hdbc completionType)).setConn key
    fun c => { c with beginRemoteXact := false }

/-- What comes after a call that succeeds. -/
theorem endRemoteXact_completes {completionType : CompletionType}
    (hconn : (w.conn key).connected = true) (hrc : sqlSucceeded (w.nextRc env) = true) :
    endRemoteXact env key completionType w = Proc.when (closesAfterCommit (w.conn key))
      (disconnectTbServer env key) (w.completed env key completionType) := by
  have hend : tbSqlEndTran env key completionType w =
      .ok () (w.completed env key completionType) := by
    rw [tbSqlEndTran, Proc.read_bind_run,
      Proc.bind_of_ok ((tbCall_eq_ok (u := ())).mpr ⟨hrc, rfl⟩)]
    rfl
  rw [endRemoteXact, Proc.read_bind_run, hconn, Proc.when_true, Proc.bind_of_ok hend,
    Proc.read_bind_run, World.completed, World.setConn_self]
  rfl

theorem World.completed_connected {completionType : CompletionType}
    (hconn : (w.conn key).connected = true) :
    ((w.completed env key completionType).conn key).connected = true := by
  rw [World.completed, World.setConn_self]
  exact hconn

theorem World.completed_length {completionType : CompletionType} :
    (w.completed env key completionType).trace.length = w.trace.length + 1 := by
  rw [World.completed, World.setConn_trace, World.called_length]

/-- Which calls must succeed for the entry to be left without an error. -/
theorem endRemoteXact_isOk {completionType : CompletionType}
    (hconn : (w.conn key).connected = true) :
    (endRemoteXact env key completionType w).isOk = (sqlSucceeded (w.nextRc env) &&
      (!closesAfterCommit (w.conn key) || closesCleanly env (w.trace.length + 1))) := by
  rcases hrc : sqlSucceeded (w.nextRc env) with _ | _
  · rw [endRemoteXact_fails hconn (by simp [hrc])]
    rfl
  · rw [endRemoteXact_completes hconn hrc]
    rcases hcloses : closesAfterCommit (w.conn key) with _ | _
    · rfl
    · -- ending the transaction does not close the connection
      rw [Proc.when_true, disconnectTbServer_isOk (World.completed_connected hconn),
        World.completed_length]
      rfl

/-! ## The calls that are made -/

/-- A call that ends a transaction. -/
def SqlCall.endsTran : SqlCall → Bool
  | .endTran _ _ => true
  | _ => false

/-- The commit was called, and nothing that ends a transaction after it. -/
def CommitCalled (w : World) (key : ConnCacheKey) (rc : SqlReturn) (w' : World) : Prop :=
  ∃ calls, w'.trace = w.trace ++ ⟨.endTran (w.conn key).hdbc .commit, rc⟩ :: calls ∧
    ∀ i ∈ calls, i.call.endsTran = false

theorem callRules_commitCalled (env : Environment) (w : World) (key : ConnCacheKey)
    (rc : SqlReturn) : CallRules env key (CommitCalled w key rc) where
  issued w' call rc' hcall := by
    rintro ⟨calls, htrace, hcalls⟩
    refine ⟨calls ++ [⟨call, rc'⟩], ?_, ?_⟩
    · rw [World.issued, htrace, List.append_assoc, List.cons_append]
    · intro i hi
      rcases List.mem_append.mp hi with hi | hi
      · exact hcalls i hi
      · obtain rfl := List.mem_singleton.mp hi
        cases call <;> first | rfl | exact hcall.elim
  setConn _ _ _ h := h

/-- Whatever comes after the commit, it was called once. -/
theorem endRemoteXact_commitCalled (hconn : (w.conn key).connected = true) :
    CommitCalled w key (w.nextRc env) (endRemoteXact env key .commit w).next := by
  have R := callRules_commitCalled env w key (w.nextRc env)
  have hcalled : CommitCalled w key (w.nextRc env)
      (w.called env (.endTran (w.conn key).hdbc .commit)) :=
    ⟨[], rfl, fun _ hi => (List.not_mem_nil hi).elim⟩
  by_cases hrc : sqlSucceeded (w.nextRc env) = true
  · rw [endRemoteXact_completes hconn hrc]
    exact (Proc.Keeps.when R.disconnectTbServer).next (R.setConn _ _ (fun _ => rfl) hcalled)
  · rw [endRemoteXact_fails hconn hrc]
    exact R.dropConnection.next hcalled

theorem CommitCalled.mem_iff {rc rc' : SqlReturn} (h : CommitCalled w key rc w') :
    ⟨.endTran (w.conn key).hdbc .commit, rc'⟩ ∈ w'.trace.drop w.trace.length ↔ rc' = rc := by
  obtain ⟨calls, htrace, hcalls⟩ := h
  rw [htrace, List.drop_left]
  constructor
  · intro hmem
    rcases List.mem_cons.mp hmem with heq | hlater
    · exact congrArg Issued.rc heq
    · cases hcalls _ hlater
  · rintro rfl
    exact List.mem_cons_self ..

/-! ## The loop over the entries -/

theorem xactCallbackEntry_preCommit : xactCallbackEntry env .preCommit key w =
    Proc.when (w.conn key).beginRemoteXact (endRemoteXact env key .commit) w :=
  xactCallbackEntry_run rfl fun h => by cases h

/-- An entry without an open remote transaction is passed over. -/
theorem xactCallbackEntry_passes {event : XactEvent} {completionType : CompletionType}
    (hevent : event.completion = some completionType)
    (htrouble : completionType = .rollback → w.inErrorRecursionTrouble = false)
    (hno : ¬((w.conn key).connected = true ∧ (w.conn key).beginRemoteXact = true)) :
    xactCallbackEntry env event key w = .ok () w := by
  rw [xactCallbackEntry_run hevent htrouble]
  rcases hbegun : (w.conn key).beginRemoteXact with _ | _
  · rfl
  · have hconn : (w.conn key).connected = false := by
      simpa [hbegun] using hno
    rw [Proc.when_true, endRemoteXact, Proc.read_bind_run, hconn]
    rfl

theorem xactCallback_passes {keys : List ConnCacheKey} (hno : ∀ k ∈ keys,
      ¬((w.conn k).connected = true ∧ (w.conn k).beginRemoteXact = true)) :
    Proc.forEach keys (xactCallbackEntry env .preCommit) w = .ok () w := by
  induction keys with
  | nil => rfl
  | cons k rest ih =>
    rw [Proc.forEach_cons,
      Proc.bind_of_ok (xactCallbackEntry_passes rfl (fun h => by cases h)
        (hno k (List.mem_cons_self ..)))]
    exact ih fun k' hk' => hno k' (List.mem_cons_of_mem _ hk')

/-- The loop comes to the one open remote transaction, and to nothing else. -/
theorem xactCallback_commits {keys : List ConnCacheKey} (hkey : key ∈ keys)
    (honly : ∀ k ∈ keys, ((w.conn k).connected = true ∧ (w.conn k).beginRemoteXact = true) ↔
      k = key) :
    Proc.forEach keys (xactCallbackEntry env .preCommit) w = endRemoteXact env key .commit w := by
  induction keys with
  | nil => exact (List.not_mem_nil hkey).elim
  | cons k rest ih =>
    rw [Proc.forEach_cons]
    by_cases hk : k = key
    · subst hk
      obtain ⟨hconn, hbegun⟩ := (honly k (List.mem_cons_self ..)).mpr rfl
      have hentry : xactCallbackEntry env .preCommit k w = endRemoteXact env k .commit w := by
        rw [xactCallbackEntry_preCommit, hbegun, Proc.when_true]
      rcases hrun : endRemoteXact env k .commit w with ⟨u, w₁⟩ | ⟨e, w₁⟩
      · have hended := endRemoteXact_ok hconn hrun
        rw [Proc.bind_of_ok (hentry.trans hrun)]
        -- after the commit no entry has an open remote transaction
        refine xactCallback_passes fun k' hk' hopen => ?_
        by_cases hsame : k' = k
        · subst hsame
          rw [hended.beginRemoteXact] at hopen
          cases hopen.2
        · rw [hended.others k' hsame] at hopen
          exact hsame ((honly k' (List.mem_cons_of_mem _ hk')).mp hopen)
      · exact Proc.bind_of_raise (hentry.trans hrun)
    · have hno := fun hopen => hk ((honly k (List.mem_cons_self ..)).mp hopen)
      rw [Proc.bind_of_ok (xactCallbackEntry_passes rfl
        (fun h => by cases h) hno)]
      exact ih (List.mem_of_ne_of_mem (Ne.symm hk) hkey) fun k' hk' =>
        honly k' (List.mem_cons_of_mem _ hk')

/-- The callback does what the one entry asks for. -/
theorem tbfdwXactCallback_commits {w₁ : World} (hw₁ : w₁ = { w with useSleepOnSig := true })
    (hgot : w.xactGotConnection = true) (hopen : ∀ k, w.InXact k ↔ k = key) :
    (tbfdwXactCallback env .preCommit w).isOk = (endRemoteXact env key .commit w₁).isOk ∧
      (tbfdwXactCallback env .preCommit w).next.trace =
        (endRemoteXact env key .commit w₁).next.trace := by
  have hloop : Proc.forEach w.keys (xactCallbackEntry env .preCommit) w₁ =
      endRemoteXact env key .commit w₁ := by
    refine xactCallback_commits ((hopen key).mpr rfl).1.1 fun k hk => ?_
    rw [hw₁]
    exact ⟨fun h => (hopen k).mp ⟨⟨hk, h.1⟩, h.2⟩,
      fun h => ⟨((hopen k).mpr h).1.2, ((hopen k).mpr h).2⟩⟩
  rw [tbfdwXactCallback, Proc.read_bind_run, hgot, Proc.when_true, setSleepOnSigOn,
    Proc.modify_bind_run, ← hw₁]
  rcases hrun : endRemoteXact env key .commit w₁ with ⟨u, w'⟩ | ⟨e, w'⟩
  · rw [Proc.bind_of_ok (hloop.trans hrun)]
    exact ⟨rfl, rfl⟩
  · rw [Proc.bind_of_raise (hloop.trans hrun)]
    exact ⟨rfl, rfl⟩

/-- **When the callback raises an error only for a failed commit**: exactly when nothing
goes wrong after the commit. An error from the disconnection aborts the local transaction when
the remote one is committed already. -/
theorem raisesOnFailedCommit_iff (hopen : ∀ k, w.InXact k ↔ k = key) :
    RaisesOnFailedCommit env w key ↔ undisturbed env w key = true := by
  rcases hgot : w.xactGotConnection with _ | _
  · have hrun : tbfdwXactCallback env .preCommit w = .ok () w := by
      rw [tbfdwXactCallback, Proc.read_bind_run, hgot]
      rfl
    have hnone : ¬CommitFails env w key := by
      rintro ⟨rc, -, hmem⟩
      rw [hrun, Outcome.next_ok, List.drop_length] at hmem
      exact List.not_mem_nil hmem
    simp [RaisesOnFailedCommit, undisturbed, hgot, hnone, hrun]
  · obtain ⟨w₁, hw₁⟩ : ∃ w₁, w₁ = { w with useSleepOnSig := true } := ⟨_, rfl⟩
    have hconn : (w₁.conn key).connected = true := by
      rw [hw₁]
      exact ((hopen key).mpr rfl).1.2
    obtain ⟨hok, htrace⟩ := @tbfdwXactCallback_commits env w key w₁ hw₁ hgot hopen
    have hisOk := @endRemoteXact_isOk env w₁ key .commit hconn
    have hcalled := @endRemoteXact_commitCalled env w₁ key hconn
    have hsame : w₁.trace = w.trace ∧ w₁.conn = w.conn := by
      rw [hw₁]
      exact ⟨rfl, rfl⟩
    -- the commit is called once, so its return code decides
    have hfails : CommitFails env w key ↔ sqlSucceeded (w₁.nextRc env) = false := by
      rw [CommitFails, htrace, ← hsame.1, ← hsame.2]
      constructor
      · rintro ⟨rc, hrc, hmem⟩
        exact hcalled.mem_iff.mp hmem ▸ hrc
      · exact fun hrc => ⟨_, hrc, hcalled.mem_iff.mpr rfl⟩
    rw [RaisesOnFailedCommit, hfails, hok, hisOk, undisturbed, hgot, World.nextRc, hsame.1, hsame.2]
    cases sqlSucceeded (env.rc w.trace.length) <;> cases closesAfterCommit (w.conn key) <;>
      cases closesCleanly env (w.trace.length + 1) <;> simp

end

/-- A backend with one connection, which is in a remote transaction and marked. -/
def World.inMarkedXact : World :=
  { World.start with
    keys := [1]
    conn := fun _ => ⟨1, 2, true, true, true, true, 7, 7, 1, [], 0⟩
    xactGotConnection := true }

theorem World.inMarkedXact_iff (k : ConnCacheKey) : World.inMarkedXact.InXact k ↔ k = 1 :=
  ⟨fun h => List.mem_singleton.mp h.1.1, fun h => ⟨⟨List.mem_singleton.mpr h, rfl⟩, rfl⟩⟩

/-- The connection is closed after the commit, without an error. -/
theorem markedCommit_returns : RaisesOnFailedCommit .succeeding .inMarkedXact 1 :=
  (raisesOnFailedCommit_iff World.inMarkedXact_iff).mpr (by decide)

/-- A driver that commits and fails to disconnect. -/
def Environment.staysConnected : Environment :=
  { Environment.succeeding with rc := fun n => if n = 1 then -1 else SQL_SUCCESS }

/-- The commit succeeds, and the callback raises an error. -/
theorem failedDisconnect_raises : ¬RaisesOnFailedCommit .staysConnected .inMarkedXact 1 := by
  intro h
  obtain ⟨rc, hrc, hmem⟩ := h.mp (by decide)
  have hcommits : ((tbfdwXactCallback .staysConnected .preCommit .inMarkedXact).next.trace.drop
      World.inMarkedXact.trace.length).all (fun i => !i.call.endsTran || sqlSucceeded i.rc) =
      true := by decide
  have hsucceeded := List.all_eq_true.mp hcommits _ hmem
  rw [hrc] at hsucceeded
  cases hsucceeded

end TiberoFdw
