import TiberoFdw.AbortErrors
import TiberoFdw.FailStop
import TiberoFdw.InsertRun

/-!
# A commit over several connections

The callback commits the remote transactions one by one, in the order of the hash table,
and an error leaves the loop: then PostgreSQL aborts the local transaction, although what
was committed before stays. So a commit is not atomic over several connections, but what is
durable afterwards is the work of the first entries of the order, all of it, and nothing
else; a transaction that is committed locally has committed the work of all of them.
-/

namespace TiberoFdw

/-- The remote work of some entries. -/
def World.workOf (w : World) (keys : List ConnCacheKey) : List Nat :=
  keys.flatMap fun k => w.remote.work (w.conn k).hdbc

/-- What is durable is the work of the first entries that were open; of all of them after a
loop without an error. -/
def CommitsPrefix (keys : List ConnCacheKey) (w : World) (isOk : Bool) (w' : World) : Prop :=
  ∃ done rest, w.openKeys keys = done ++ rest ∧
    w'.remote.committed = w.remote.committed ++ w.workOf done ∧ (isOk = true → rest = [])

/-- `COMMIT` of a local transaction: an error of the callback turns it into an abort, whose
own errors are only reported. Whether it was committed locally. -/
def commitTransaction (env : Environment) (inErrorRecursionTrouble : Bool) : Fdw Bool :=
  (do
    tbfdwXactCallback env .preCommit
    tbfdwXactCallback env .commit
    pure true : Fdw Bool).onError fun _ =>
  (do
    Proc.modify fun w => { w with inErrorRecursionTrouble }
    tbfdwXactCallback env .abort
    pure false : Fdw Bool).onError fun _ => pure false

section

variable {pg : Postgres} {env : Environment} {w w' : World} {key : ConnCacheKey}
  {keys : List ConnCacheKey} {committed : List Nat}

/-! ## Calls that commit nothing -/

theorem Remote.step_committed {call : SqlCall} {rc : SqlReturn} (r : Remote)
    (hcall : call.Connects w rc ∨ ∃ hdbc, call = .endTran hdbc .rollback) :
    (r.step ⟨call, rc⟩).committed = r.committed := by
  rw [Remote.step]
  split_ifs
  · rcases hcall with hcall | ⟨hdbc, rfl⟩
    · cases call with
      | allocHandle handleType _ _ => cases handleType <;> rfl
      | setConnectAttr =>
        rw [Remote.effect]
        split_ifs <;> rfl
      | freeStmt _ option =>
        cases option with
        | close => rfl
        | drop => exact hcall.elim
      | driverConnect | disconnect | setEnvAttr | freeHandle | execDirect | fetch | bindCol => rfl
      | _ => exact hcall.elim
    · rfl
  · rfl

theorem callRules_committed (env : Environment) (key : ConnCacheKey) (committed : List Nat) :
    CallRules env key fun w => w.remote.committed = committed where
  issued w call rc hcall h := by
    rw [World.issued_remote, Remote.step_committed _ (.inl hcall)]
    exact h
  setConn w f _ h := h

/-- Rolling back commits nothing. -/
theorem endRemoteXact_rollback_committed :
    Proc.Keeps (fun w => w.remote.committed = committed) (endRemoteXact env key .rollback) := by
  have R := callRules_committed env key committed
  refine .read_bind fun w => .when (.bind (.read_bind fun w => ?_) fun _ => ?_)
  · refine .bind (.bind (fun w h => ?_) fun _ => R.checkReturn _ _) fun _ => .modify fun w h => h
    change (w.issued env _ _).remote.committed = committed
    rw [World.issued_remote, @Remote.step_committed w _ _ _ (.inr ⟨_, rfl⟩)]
    exact h
  · exact .read_bind fun w => .when R.disconnectTbServer

theorem tbfdwXactCallback_committed {event : XactEvent} (hevent : event.completion ≠ some .commit) :
    Proc.Keeps (fun w => w.remote.committed = committed) (tbfdwXactCallback env event) := by
  have hentry : ∀ k, Proc.Keeps (fun w => w.remote.committed = committed)
      (xactCallbackEntry env event k) := by
    refine fun k => .read_bind fun w => .when ?_
    cases event with
    | preCommit | parallelPreCommit => exact (hevent rfl).elim
    | prePrepare | commit | parallelCommit | prepare => exact .pure ()
    | abort | parallelAbort =>
      dsimp only
      split_ifs
      · exact .modify fun w h => h
      · exact endRemoteXact_rollback_committed
  refine .read_bind fun w => .when (.bind (.modify fun w h => h) fun _ => ?_)
  exact .bind (.forEach fun k _ => hentry k) fun _ => .bind (.modify fun w h => h) fun _ =>
    .modify fun w h => h

/-! ## The loop -/

/-- What a commit of one entry makes durable: nothing when the commit itself fails, else the
work of the entry, also when the connection cannot be closed afterwards. -/
theorem endRemoteXact_commit_cases (hconn : (w.conn key).connected = true) :
    ((endRemoteXact env key .commit w).isOk = false ∧
      (endRemoteXact env key .commit w).next.remote.committed = w.remote.committed) ∨
    (endRemoteXact env key .commit w).next.remote.committed =
      w.remote.committed ++ w.remote.work (w.conn key).hdbc := by
  by_cases hrc : sqlSucceeded (w.nextRc env) = true
  · have R := callRules_committed env key
      (w.remote.committed ++ w.remote.work (w.conn key).hdbc)
    have hcompleted : (w.completed env key .commit).remote.committed =
        w.remote.committed ++ w.remote.work (w.conn key).hdbc := by
      rw [World.completed, World.setConn_remote, World.called_remote hrc]
      rfl
    rw [endRemoteXact_completes hconn hrc]
    exact .inr ((Proc.Keeps.when R.disconnectTbServer).next hcompleted)
  · have R := callRules_committed env key w.remote.committed
    have hcalled : (w.called env (.endTran (w.conn key).hdbc .commit)).remote.committed =
        w.remote.committed := by
      rw [World.called, World.issued_remote, Remote.step, if_neg hrc]
    rw [endRemoteXact_fails hconn hrc]
    exact .inl ⟨rfl, R.dropConnection.next hcalled⟩

/-- The work of the other entries is where it was. -/
theorem Ended.workOf {completionType : CompletionType}
    (h : Ended env key completionType w w') (hkeys : ∀ k ∈ keys, k ≠ key ∧
      (w.conn k).hdbc ≠ (w.conn key).hdbc) : w'.workOf keys = w.workOf keys := by
  rw [World.workOf, World.workOf, List.flatMap_def, List.flatMap_def]
  refine congrArg List.flatten (List.map_congr_left fun k hk => ?_)
  obtain ⟨hne, hhdbc⟩ := hkeys k hk
  rw [h.others k hne]
  exact (h.effect.1 _ hhdbc).1

/-- No two open entries of the list share a session. -/
def OpenApart (keys : List ConnCacheKey) (w : World) : Prop :=
  keys.Pairwise fun k k' => k ≠ k' ∧ ((w.conn k).isOpen = true → (w.conn k').isOpen = true →
    (w.conn k').hdbc ≠ (w.conn k).hdbc)

/-- **The loop makes the work of a prefix durable.** By induction on the entries: the first error
ends it, before the commit of its entry or after it. -/
theorem preCommitLoop_durable (hapart : OpenApart keys w) :
    CommitsPrefix keys w (Proc.forEach keys (xactCallbackEntry env .preCommit) w).isOk
      (Proc.forEach keys (xactCallbackEntry env .preCommit) w).next := by
  induction keys generalizing w with
  | nil => exact ⟨[], [], rfl, (List.append_nil _).symm, fun _ => rfl⟩
  | cons key rest ih =>
    obtain ⟨hkey, hrest⟩ := List.pairwise_cons.mp hapart
    rw [Proc.forEach_cons]
    rcases hopen : (w.conn key).isOpen with _ | _
    · -- an entry that is not open is passed over
      rw [Proc.bind_of_ok (xactCallbackEntry_passes rfl (fun h => by cases h)
        (ConnCacheEntry.isOpen_eq_false.mp hopen)), CommitsPrefix, World.openKeys_cons, hopen]
      exact ih hrest
    obtain ⟨hconn, hbegun⟩ := ConnCacheEntry.isOpen_iff.mp hopen
    have hentry : xactCallbackEntry env .preCommit key w = endRemoteXact env key .commit w := by
      rw [xactCallbackEntry_preCommit, hbegun, Proc.when_true]
    have hcases := @endRemoteXact_commit_cases env w key hconn
    rw [CommitsPrefix, World.openKeys_cons, if_pos hopen]
    rcases hrun : endRemoteXact env key .commit w with ⟨u, w₁⟩ | ⟨e, w₁⟩ <;> rw [hrun] at hcases
    · have hended := endRemoteXact_ok hconn hrun
      have hcommitted : w₁.remote.committed =
          w.remote.committed ++ w.remote.work (w.conn key).hdbc :=
        hcases.resolve_left fun h => by cases h.1
      have hothers : ∀ k ∈ rest, w₁.conn k = w.conn k := fun k hk =>
        hended.others k (hkey k hk).1.symm
      have hapart₁ : OpenApart rest w₁ := by
        refine hrest.imp_of_mem fun hk hk' h => ?_
        rw [hothers _ hk, hothers _ hk']
        exact h
      have hopen₁ : w₁.openKeys rest = w.openKeys rest := (World.callsBeforeLast_congr hothers).1
      obtain ⟨done, left, hkeys, hdone, hall⟩ := ih hapart₁
      have hwork : w₁.workOf done = w.workOf done := by
        refine hended.workOf fun k hk => ?_
        have hmem : k ∈ w.openKeys rest := by
          rw [← hopen₁, hkeys]
          exact List.mem_append.mpr (.inl hk)
        obtain ⟨hmem, hkopen⟩ := List.mem_filter.mp hmem
        exact ⟨(hkey k hmem).1.symm, (hkey k hmem).2 hopen hkopen⟩
      rw [Proc.bind_of_ok (hentry.trans hrun)]
      refine ⟨key :: done, left, by rw [← hopen₁, hkeys]; rfl, ?_, hall⟩
      rw [hdone, hwork, hcommitted, List.append_assoc]
      rfl
    · rw [Proc.bind_of_raise (hentry.trans hrun)]
      rcases hcases with ⟨-, hcommitted⟩ | hcommitted
      · exact ⟨[], _, rfl, hcommitted.trans (List.append_nil _).symm, fun h => by cases h⟩
      · refine ⟨[key], _, rfl, hcommitted.trans ?_, fun h => by cases h⟩
        rw [World.workOf, List.flatMap_singleton]

/-! ## The commit -/

theorem preCommit_durable (hgot : w.xactGotConnection = true) (hapart : OpenApart w.keys w) :
    CommitsPrefix w.keys w (tbfdwXactCallback env .preCommit w).isOk
      (tbfdwXactCallback env .preCommit w).next := by
  have hloop := @preCommitLoop_durable env { w with useSleepOnSig := true } w.keys hapart
  rw [tbfdwXactCallback, Proc.read_bind_run, hgot, Proc.when_true, setSleepOnSigOn,
    Proc.modify_bind_run]
  rcases hrun : Proc.forEach w.keys (xactCallbackEntry env .preCommit)
      { w with useSleepOnSig := true } with ⟨u, w₁⟩ | ⟨e, w₁⟩ <;> rw [hrun] at hloop
  · rw [Proc.bind_of_ok hrun]
    exact hloop
  · rw [Proc.bind_of_raise hrun]
    exact hloop

/-- After the loop nothing else becomes durable. -/
theorem commitTransaction_prefix {inErrorRecursionTrouble locally : Bool}
    (hgot : w.xactGotConnection = true) (hapart : OpenApart w.keys w)
    (h : commitTransaction env inErrorRecursionTrouble w = .ok locally w') :
    CommitsPrefix w.keys w locally w' := by
  obtain ⟨done, rest, hkeys, hdone, hall⟩ := @preCommit_durable env w hgot hapart
  have hkeeps : ∀ event, event.completion ≠ some .commit →
      Proc.Keeps (fun w₁ => w₁.remote.committed = w.remote.committed ++ w.workOf done)
        (tbfdwXactCallback env event) := fun _ => tbfdwXactCallback_committed
  -- an abort is an abort, whatever becomes of it
  have haborts : Proc.Triple
      (fun w₁ => w₁.remote.committed = w.remote.committed ++ w.workOf done)
      ((do
        Proc.modify fun w => { w with inErrorRecursionTrouble }
        tbfdwXactCallback env .abort
        pure false : Fdw Bool).onError fun _ => pure false)
      (fun locally w₁ => (locally = true → (tbfdwXactCallback env .preCommit w).isOk = true) ∧
        w₁.remote.committed = w.remote.committed ++ w.workOf done)
      fun _ _ => False := by
    refine .onError (.bind (.modify fun w₁ h₁ => h₁) fun _ => .bind (hkeeps .abort (by decide))
      fun _ => .pure fun w₁ h₁ => ⟨fun htrue => (Bool.false_ne_true htrue).elim, h₁⟩)
      fun _ => .pure fun w₁ h₁ => ⟨fun htrue => (Bool.false_ne_true htrue).elim, h₁⟩
  have hcommit : Proc.Triple (· = w)
      (do
        tbfdwXactCallback env .preCommit
        tbfdwXactCallback env .commit
        pure true : Fdw Bool)
      (fun locally w₁ => (locally = true → (tbfdwXactCallback env .preCommit w).isOk = true) ∧
        w₁.remote.committed = w.remote.committed ++ w.workOf done)
      fun _ w₁ => w₁.remote.committed = w.remote.committed ++ w.workOf done := by
    rintro _ rfl
    rcases hrun : tbfdwXactCallback env .preCommit _ with ⟨u, w₁⟩ | ⟨e, w₁⟩ <;> rw [hrun] at hdone
    · rw [Proc.bind_of_ok hrun]
      exact Proc.Triple.bind (hkeeps .commit (by decide)) (fun _ => .pure fun w₂ h₂ =>
        ⟨fun _ => rfl, h₂⟩) w₁ hdone
    · rw [Proc.bind_of_raise hrun]
      exact hdone
  obtain ⟨hlocally, hcommitted⟩ := (Proc.Triple.onError hcommit fun _ => haborts).apply_ok rfl h
  exact ⟨done, rest, hkeys, hcommitted, fun htrue => hall (hlocally htrue)⟩

/-- No key is in the cache twice. -/
theorem keysNodup_of_runBackend {ops : List BackendOp} {w₀ : World} {b b' : Backend}
    (h : w₀.keys.Nodup) (hrun : runBackend pg env ops b w₀ = .ok b' w) : w.keys.Nodup := by
  have hsettled : ∀ w w', Settled w w' → w.keys.Nodup → w'.keys.Nodup := fun _ _ hs h => hs.keys ▸ h
  have hget : ∀ user tbStmt useFbQuery, Proc.Keeps (fun w : World => w.keys.Nodup)
      (getTbStatement pg env user tbStmt useFbQuery) := by
    refine fun user tbStmt useFbQuery => .of_next fun w h => ?_
    rw [(getTbStatement_touches pg env user tbStmt useFbQuery w).keys]
    exact World.entered_nodup h env user.umid
  have R : CallbackRules pg env (fun w => w.keys.Nodup) fun _ _ w => w.keys.Nodup :=
    .of_settled hsettled hget (getForeignServer_keeps hsettled fun _ _ h => h)
  refine Proc.fold_ok (I := fun _ w => w.keys.Nodup) ?_
    (.of_forall (p := fun _ => True) (fun _ _ => trivial) _ _) h hrun
  intro op b w b' w' _ h hstep
  rcases hop : op.setsMoment with _ | _
  · exact (R.keeps_step hop b).apply_ok h hstep
  · cases op with
    | startTransaction | startStatement =>
      cases hstep
      exact h
    | _ => cases hop

/-- **A commit over several connections**: in every state that a run reaches and in which the
transaction has asked for a connection, whatever fails in the commit or in the abort that
follows, the work of the first open connections in the order of the cache becomes durable, and no
other; when the transaction is committed locally, the work of all of them. -/
theorem commit_durablePrefix {ops : List BackendOp} {w₀ : World} (hkeys : w₀.keys = [])
    (htrace : w₀.trace = []) {b : Backend}
    (hrun : runBackend pg env ops Backend.start w₀ = .ok b w) (hgot : w.xactGotConnection = true)
    {inErrorRecursionTrouble locally : Bool}
    (hcommit : commitTransaction env inErrorRecursionTrouble w = .ok locally w') :
    CommitsPrefix w.keys w locally w' := by
  have h : SessionsSound (OwnString env ops) b.Uses w := .of_runBackend hkeys htrace hrun
  refine commitTransaction_prefix hgot ?_ hcommit
  refine (keysNodup_of_runBackend (by simp [hkeys]) hrun).imp_of_mem fun hk hk' hne => ⟨hne, ?_⟩
  intro hopen hopen' heq
  exact hne (h.distinct _ _ ⟨hk, (ConnCacheEntry.isOpen_iff.mp hopen).1⟩
    ⟨hk', (ConnCacheEntry.isOpen_iff.mp hopen').1⟩ heq.symm)

end

/-- A row is inserted through each of two user mappings. -/
def twoMappingsInsert : List BackendOp :=
  [.beginModify textTable ⟨1, 7, []⟩ ⟨"INSERT INTO t(c) VALUES (?)".toList, [1]⟩,
    .insert 0 (textSlot "x"),
    .beginModify textTable ⟨2, 7, []⟩ ⟨"INSERT INTO t(c) VALUES (?)".toList, [1]⟩,
    .insert 1 (textSlot "y")]

/-- The driver fails at the second of two commits. -/
def Environment.failsToCommit : Environment :=
  { Environment.succeeding with rc := fun n => if n = 21 then -1 else SQL_SUCCESS }

/-- The transaction is aborted locally, and the second row is durable. -/
theorem twoMappings_prefix :
    ∃ b w w', runBackend .small .failsToCommit twoMappingsInsert Backend.start World.start =
        .ok b w ∧ w.workOf (w.openKeys w.keys) = [1, 0] ∧
      commitTransaction .failsToCommit false w = .ok false w' ∧ w'.remote.committed = [1] ∧
      CommitsPrefix w.keys w false w' := by
  obtain ⟨b, w, hrun, htest⟩ : ∃ b w, runBackend .small .failsToCommit twoMappingsInsert
      Backend.start World.start = .ok b w ∧ (w.xactGotConnection &&
        w.workOf (w.openKeys w.keys) == [1, 0] &&
        (commitTransaction .failsToCommit false w).okAnd
          fun locally w' => !locally && w'.remote.committed == [1]) = true :=
    Outcome.exists_of_okAnd (by decide +kernel)
  simp only [Bool.and_eq_true, beq_iff_eq] at htest
  obtain ⟨⟨hgot, hwork⟩, hcommit⟩ := htest
  obtain ⟨locally, w', hcommitted, hlocally⟩ := Outcome.exists_of_okAnd hcommit
  simp only [Bool.and_eq_true, beq_iff_eq, Bool.not_eq_true'] at hlocally
  obtain ⟨rfl, hdurable⟩ := hlocally
  exact ⟨b, w, w', hrun, hwork, hcommitted, hdurable,
    commit_durablePrefix rfl rfl hrun hgot hcommitted⟩

end TiberoFdw
