import Mathlib.Data.List.Induction
import TiberoFdw.Invalidation
import TiberoFdw.Lib.Savepoints
import TiberoFdw.PartialCommits

/-!
# Savepoints of a local transaction

`TbfdwSubxactCallback` does nothing but set the flag, so the remote side knows of no savepoint:
what was executed in a subtransaction stays in the remote transaction when the subtransaction is
rolled back, and the commit makes it durable with the rest. So after a commit the remote side
agrees with the local one exactly when no insert was executed in a subtransaction that was rolled
back (`savepoints_durable`).
-/

namespace TiberoFdw

/-- A local transaction: the statements that were handed out, and the inserts executed for it. -/
structure SavepointTxn where
  stmts : List TbStatement
  executed : Savepoints Nat

/-- A transaction that has done nothing. -/
def SavepointTxn.start : SavepointTxn := ⟨[], .start⟩

/-- What happens in a transaction with savepoints. -/
inductive SubxactOp : Type where
  | txnOp (op : TxnOp)
  | startSub
  | commitSub
  | abortSub

/-- Run a step. PostgreSQL calls the callback twice when a subtransaction commits, before the
commit and after it. -/
def SubxactOp.run (pg : Postgres) (env : Environment) : SubxactOp → SavepointTxn → Fdw SavepointTxn
  | .txnOp op, txn => do
    let w ← Proc.read
    let stmts ← op.run pg env txn.stmts
    let w' ← Proc.read
    pure ⟨stmts, txn.executed.add
      (List.range' w.remote.executed (w'.remote.executed - w.remote.executed))⟩
  | .startSub, txn => do
    tbfdwSubxactCallback
    pure { txn with executed := txn.executed.savepoint }
  | .commitSub, txn => do
    tbfdwSubxactCallback
    tbfdwSubxactCallback
    pure { txn with executed := txn.executed.release }
  | .abortSub, txn => do
    tbfdwSubxactCallback
    pure { txn with executed := txn.executed.rollback }

/-- `KeepsSession` of the steps. -/
def SubxactOp.KeepsSession (op : SubxactOp) (txn : SavepointTxn) (w : World) : Prop :=
  match op with
  | .txnOp op => TiberoFdw.KeepsSession op txn.stmts w
  | _ => True

/-- What holds inside a transaction that started in `w₀`. -/
structure InSubxacts (w₀ : World) (txn : SavepointTxn) (w : World) : Prop where
  inTxn : InTxn w₀ txn.stmts w
  covers : txn.executed.Covers
    (List.range' w₀.remote.executed (w.remote.executed - w₀.remote.executed))

/-- Of the inserts since `w₀`, those are durable that the local transaction has kept. -/
def RemoteAgrees (w₀ : World) (txn : SavepointTxn) (w : World) : Prop :=
  ∀ n, w₀.remote.executed ≤ n → (n ∈ w.remote.committed ↔ n ∈ txn.executed.kept)

section

variable {pg : Postgres} {env : Environment} {w₀ w w' : World} {txn txn' : SavepointTxn}

/-! ## The numbers of the executions -/

/-- The executions are numbered in their order. -/
structure Remote.Numbered (r : Remote) : Prop where
  work : ∀ h, ∀ n ∈ r.work h, n < r.executed
  committed : ∀ n ∈ r.committed, n < r.executed

/-- A call that executes nothing. -/
theorem Remote.Numbered.of_le {r r' : Remote} (h : r.Numbered)
    (hexecuted : r'.executed = r.executed) (hwork : ∀ h, ∀ n ∈ r'.work h, n ∈ r.work h)
    (hcommitted : ∀ n ∈ r'.committed, n ∈ r.committed ∨ ∃ h, n ∈ r.work h) : r'.Numbered := by
  refine ⟨fun hdbc n hn => ?_, fun n hn => ?_⟩
  · rw [hexecuted]
    exact h.work hdbc n (hwork hdbc n hn)
  · rw [hexecuted]
    rcases hcommitted n hn with hn | ⟨hdbc, hn⟩
    · exact h.committed n hn
    · exact h.work hdbc n hn

theorem Remote.mem_set {α : Type} {f : Handle → List α} {h x : Handle} {l : List α} {a : α}
    (ha : a ∈ Remote.set f h l x) : a ∈ l ∨ a ∈ f x := by
  by_cases hx : x = h
  · subst hx
    rw [set_same] at ha
    exact .inl ha
  · rw [set_of_ne hx] at ha
    exact .inr ha

theorem Remote.Numbered.effect {r : Remote} (h : r.Numbered) (call : SqlCall) :
    (r.effect call).Numbered := by
  have hsame : ∀ r' : Remote, r'.executed = r.executed → r'.work = r.work →
      r'.committed = r.committed → r'.Numbered := by
    intro r' hexecuted hwork hcommitted
    exact h.of_le hexecuted (fun _ _ hn => hwork ▸ hn) fun _ hn => .inl (hcommitted ▸ hn)
  have hcleared : ∀ hdbc hdbc' n, n ∈ Remote.set r.work hdbc [] hdbc' → n ∈ r.work hdbc' :=
    fun hdbc hdbc' n hn => (mem_set hn).resolve_left List.not_mem_nil
  cases call with
  | allocHandle handleType => cases handleType <;> exact hsame _ rfl rfl rfl
  | driverConnect hdbc => exact h.of_le rfl (hcleared hdbc) fun _ => .inl
  | disconnect hdbc => exact h.of_le rfl (hcleared hdbc) fun _ => .inl
  | setConnectAttr hdbc attr value =>
    rw [Remote.effect]
    split_ifs <;> exact hsame _ rfl rfl rfl
  | execute hstmt params =>
    rw [Remote.effect]
    dsimp only
    split_ifs
    · exact ⟨fun hdbc n hn => Nat.lt_succ_of_lt (h.work hdbc n hn), fun n hn =>
        Nat.lt_succ_of_lt (h.committed n hn)⟩
    · refine ⟨fun hdbc n hn => ?_, fun n hn => Nat.lt_succ_of_lt (h.committed n hn)⟩
      rcases mem_set hn with hn | hn
      · rcases List.mem_append.mp hn with hn | hn
        · exact Nat.lt_succ_of_lt (h.work _ n hn)
        · rw [List.mem_singleton.mp hn]
          exact Nat.lt_succ_self _
      · exact Nat.lt_succ_of_lt (h.work hdbc n hn)
  | endTran hdbc completionType =>
    cases completionType with
    | commit =>
      refine h.of_le rfl (hcleared hdbc) fun n hn => ?_
      exact (List.mem_append.mp hn).imp_right fun hn => ⟨hdbc, hn⟩
    | rollback => exact h.of_le rfl (hcleared hdbc) fun _ => .inl
  | _ => exact hsame _ rfl rfl rfl

theorem Remote.numbered (trace : List Issued) : (Remote.ofTrace trace).Numbered := by
  induction trace using List.reverseRecOn with
  | nil => exact ⟨fun _ _ hn => (List.not_mem_nil hn).elim, fun _ hn => (List.not_mem_nil hn).elim⟩
  | append_singleton trace issued ih =>
    rw [Remote.ofTrace_concat, Remote.step]
    split_ifs
    · exact ih.effect issued.call
    · exact ih

theorem World.numbered (w : World) : w.remote.Numbered := Remote.numbered w.trace

/-! ## Steps -/

/-- The numbers from one moment to another, with a moment between. -/
theorem range'_between {a b c : Nat} (hab : a ≤ b) (hbc : b ≤ c) :
    List.range' a (c - a) = List.range' a (b - a) ++ List.range' b (c - b) := by
  obtain ⟨m, rfl⟩ := Nat.exists_eq_add_of_le hab
  obtain ⟨n, rfl⟩ := Nat.exists_eq_add_of_le hbc
  rw [Nat.add_assoc, Nat.add_sub_cancel_left, Nat.add_sub_cancel_left, ← Nat.add_assoc,
    Nat.add_sub_cancel_left, List.range'_append_1]

theorem InTxn.executed_le {stmts stmts' : List TbStatement} {op : TxnOp} (hok : env.AllOk)
    (h : InTxn w₀ stmts w) (hrun : op.run pg env stmts w = .ok stmts' w') :
    w.remote.executed ≤ w'.remote.executed := by
  cases op with
  | startStatement timestamp =>
    cases hrun
    exact Nat.le_refl _
  | getStatement user useFbQuery =>
    obtain ⟨stmt, w₁, hget, hrun⟩ := Proc.bind_eq_ok.mp hrun
    cases hrun
    exact Nat.le_of_eq (getTbStatement_got hok h.consistent hget).executed.symm
  | insert i =>
    rw [TxnOp.run] at hrun
    rcases hi : stmts[i]? with _ | stmt <;> rw [hi] at hrun
    · cases hrun
      exact Nat.le_refl _
    · obtain ⟨stmt', w₁, hexecute, hrun⟩ := Proc.bind_eq_ok.mp hrun
      cases hrun
      obtain ⟨-, k, hk, hsession⟩ := h.handed stmt (List.mem_of_getElem? hi)
      obtain ⟨-, -, -, -, -, hremote⟩ := execute_inXact h.consistent hk hsession hexecute
      rw [hremote]
      exact Nat.le_succ _
  | invalidate cacheid hashvalue =>
    obtain ⟨u, w₁, hinval, hrun⟩ := Proc.bind_eq_ok.mp hrun
    cases hrun
    obtain ⟨w₂, hinval', hd⟩ := tbfdwInvalCallback_run cacheid hashvalue w
    rw [hinval'] at hinval
    cases hinval
    exact Nat.le_of_eq (congrArg (fun trace => (Remote.ofTrace trace).executed) hd.trace.symm)

/-- `TbfdwSubxactCallback` leaves all but the flag. -/
theorem tbfdwSubxactCallback_run (w : World) :
    ∃ w', tbfdwSubxactCallback w = .ok () w' ∧ Delivered w w' := by
  have hsame : ∀ useSleepOnSig, Delivered w { w with useSleepOnSig } :=
    fun _ => ⟨rfl, rfl, rfl, rfl, fun k => SameButInvalidated.refl _⟩
  rw [tbfdwSubxactCallback, Proc.read_bind_run]
  rcases w.xactGotConnection with _ | _
  · exact ⟨w, rfl, hsame w.useSleepOnSig⟩
  · exact ⟨_, rfl, hsame false⟩

theorem InSubxacts.start (hw : Consistent w) : InSubxacts w SavepointTxn.start w := by
  refine ⟨InTxn.start hw, ?_⟩
  rw [Nat.sub_self]
  exact .start

/-- A savepoint is set, released or rolled back to. -/
theorem InSubxacts.moved (h : InSubxacts w₀ txn w) (hd : Delivered w w') {executed : Savepoints Nat}
    (hcovers : ∀ l, txn.executed.Covers l → executed.Covers l) :
    InSubxacts w₀ { txn with executed } w' := by
  have hremote : w'.remote = w.remote := congrArg Remote.ofTrace hd.trace
  refine ⟨h.inTxn.delivered hd, hcovers _ ?_⟩
  rw [hremote]
  exact h.covers

/-- One step. -/
theorem InSubxacts.step {op : SubxactOp} (hok : env.AllOk) (hkeeps : op.KeepsSession txn w)
    (h : InSubxacts w₀ txn w) (hrun : op.run pg env txn w = .ok txn' w') :
    InSubxacts w₀ txn' w' := by
  obtain ⟨w₁, hsub₁, hd₁⟩ := tbfdwSubxactCallback_run w
  cases op with
  | txnOp op =>
    rw [SubxactOp.run, Proc.read_bind_run] at hrun
    obtain ⟨stmts, w₂, hop, hrun⟩ := Proc.bind_eq_ok.mp hrun
    cases hrun
    have hle := h.inTxn.executed_le hok hop
    refine ⟨(h.inTxn.step hok hkeeps hop).1, ?_⟩
    rw [range'_between h.inTxn.executed hle]
    exact h.covers.add _
  | startSub =>
    rw [SubxactOp.run, Proc.bind_of_ok hsub₁] at hrun
    cases hrun
    exact h.moved hd₁ fun _ => Savepoints.Covers.savepoint
  | commitSub =>
    obtain ⟨w₂, hsub₂, hd₂⟩ := tbfdwSubxactCallback_run w₁
    rw [SubxactOp.run, Proc.bind_of_ok hsub₁, Proc.bind_of_ok hsub₂] at hrun
    cases hrun
    have hreleased := h.moved hd₁ fun _ => Savepoints.Covers.release
    exact hreleased.moved hd₂ fun _ => id
  | abortSub =>
    rw [SubxactOp.run, Proc.bind_of_ok hsub₁] at hrun
    cases hrun
    exact h.moved hd₁ fun _ => Savepoints.Covers.rollback

/-! ## The commit -/

/-- A commit makes no number durable that was not executed. -/
theorem preCommit_numbered (hw : Consistent w) {u : Unit}
    (h : tbfdwXactCallback env .preCommit w = .ok u w') {n : Nat} (hn : n ∈ w'.remote.committed) :
    n < w.remote.executed := by
  rcases hgot : w.xactGotConnection with _ | _
  · rw [tbfdwXactCallback, Proc.read_bind_run, hgot] at h
    cases h
    exact w.numbered.committed n hn
  · have hapart : OpenApart w.keys w := by
      refine hw.nodup.imp_of_mem fun hk hk' hne => ⟨hne, fun hopen hopen' heq => hne ?_⟩
      exact hw.distinct _ _ ⟨hk, (ConnCacheEntry.isOpen_iff.mp hopen).1⟩
        ⟨hk', (ConnCacheEntry.isOpen_iff.mp hopen').1⟩ heq.symm
    obtain ⟨done, rest, -, hcommitted, -⟩ := @preCommit_durable env w hgot hapart
    rw [h] at hcommitted
    change w'.remote.committed = _ at hcommitted
    rw [hcommitted] at hn
    rcases List.mem_append.mp hn with hn | hn
    · exact w.numbered.committed n hn
    · obtain ⟨k, -, hn⟩ := List.mem_flatMap.mp hn
      exact w.numbered.work _ n hn

/-- **A commit after savepoints**: all inserts that were executed are durable, also those that were
undone locally. So the remote side agrees with the local one exactly when none were undone. -/
theorem savepoints_durable {ops : List SubxactOp} {w₁ w₂ : World} {u : Unit} (hok : env.AllOk)
    (hw₀ : Reachable pg w₀)
    (hmeet : Proc.StepsMeet SubxactOp.KeepsSession (SubxactOp.run pg env) ops SavepointTxn.start w₀)
    (hrun : Proc.fold (SubxactOp.run pg env) ops SavepointTxn.start w₀ = .ok txn w₁)
    (hcommit : tbfdwXactCallback env .preCommit w₁ = .ok u w₂) :
    (∀ n, w₀.remote.executed ≤ n →
      (n ∈ w₂.remote.committed ↔ n ∈ txn.executed.kept ∨ n ∈ txn.executed.undone)) ∧
    (RemoteAgrees w₀ txn w₂ ↔ txn.executed.undone = []) := by
  have h : InSubxacts w₀ txn w₁ :=
    Proc.fold_ok (fun _ _ _ _ _ hkeeps h hstep => h.step hok hkeeps hstep) hmeet
      (.start hw₀.consistent) hrun
  have hstart := h.inTxn.executed
  have hmem : ∀ n, n ∈ List.range' w₀.remote.executed (w₁.remote.executed - w₀.remote.executed) ↔
      w₀.remote.executed ≤ n ∧ n < w₁.remote.executed := by
    intro n
    rw [List.mem_range'_1]
    omega
  have hdurable : ∀ n, w₀.remote.executed ≤ n →
      (n ∈ w₂.remote.committed ↔ n ∈ txn.executed.kept ∨ n ∈ txn.executed.undone) := by
    intro n hle
    rw [← h.covers.mem_iff, hmem]
    exact ⟨fun hn => ⟨hle, preCommit_numbered h.inTxn.consistent hcommit hn⟩,
      fun hn => h.inTxn.committed hcommit n hn.1 hn.2⟩
  refine ⟨hdurable, ?_⟩
  rw [← h.covers.all_kept_iff List.nodup_range']
  constructor
  · intro hagrees n hn
    have hle := ((hmem n).mp hn).1
    exact (hagrees n hle).mp ((hdurable n hle).mpr (h.covers.mem_iff.mp hn))
  · intro hall n hle
    refine ⟨fun hn => hall n (h.covers.mem_iff.mpr ((hdurable n hle).mp hn)), fun hn => ?_⟩
    exact (hdurable n hle).mpr (.inl hn)

end

/-- Three inserts, the second one after a savepoint to which the transaction rolls back. -/
def rolledBackTxn : List SubxactOp :=
  [.txnOp (.getStatement .sample false), .txnOp (.insert 0), .startSub, .txnOp (.insert 0),
    .abortSub, .txnOp (.insert 0)]

/-- The second insert is durable too. -/
theorem rolledBackTxn_durable :
    ∃ txn w₁ w₂, Proc.fold (SubxactOp.run .small .succeeding) rolledBackTxn .start .start =
        .ok txn w₁ ∧ txn.executed.kept = [0, 2] ∧ txn.executed.undone = [1] ∧
      tbfdwXactCallback .succeeding .preCommit w₁ = .ok () w₂ ∧
      (∀ n, 0 ≤ n →
        (n ∈ w₂.remote.committed ↔ n ∈ txn.executed.kept ∨ n ∈ txn.executed.undone)) ∧
      (RemoteAgrees .start txn w₂ ↔ txn.executed.undone = []) := by
  obtain ⟨txn, w₁, hrun, htest⟩ : ∃ txn w₁,
      Proc.fold (SubxactOp.run .small .succeeding) rolledBackTxn .start .start = .ok txn w₁ ∧
        (txn.executed.kept == [0, 2] && txn.executed.undone == [1] &&
          (tbfdwXactCallback .succeeding .preCommit w₁).isOk) = true :=
    Outcome.exists_of_okAnd (by decide +kernel)
  simp only [Bool.and_eq_true, beq_iff_eq] at htest
  obtain ⟨⟨hkept, hundone⟩, hok⟩ := htest
  obtain ⟨_, hcommit⟩ := Outcome.eq_ok_of_isOk hok
  have hmeet : Proc.StepsMeet SubxactOp.KeepsSession (SubxactOp.run .small .succeeding)
      rolledBackTxn .start .start :=
    ⟨fun _ => rfl, fun _ _ _ => ⟨trivial, fun _ _ _ => ⟨trivial, fun _ _ _ => ⟨trivial,
      fun _ _ _ => ⟨trivial, fun _ _ _ => ⟨trivial, fun _ _ _ => trivial⟩⟩⟩⟩⟩⟩
  exact ⟨txn, w₁, _, hrun, hkept, hundone, hcommit,
    savepoints_durable Environment.succeeding_allOk (.start rfl rfl) hmeet hrun hcommit⟩

end TiberoFdw
