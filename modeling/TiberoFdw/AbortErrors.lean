import Mathlib.Algebra.GroupWithZero.Nat
import TiberoFdw.CommitErrors
import TiberoFdw.Settled

/-!
# Errors of the abort callback

At `XACT_EVENT_ABORT` the callback goes over the entries and rolls the open remote
transactions back, with the same calls as at a commit (`endRemoteXact_isOk`). An error of
any of them leaves the loop: the entry itself has lost its connection then, and the
entries after it are not visited.
-/

namespace TiberoFdw

/-- The entry has an open remote transaction. -/
def ConnCacheEntry.isOpen (conn : ConnCacheEntry) : Bool := conn.connected && conn.beginRemoteXact

/-- What is said of the callback: no remote transaction is left open. -/
def AbortReachesAll (env : Environment) (w : World) : Prop :=
  ∀ k, ¬(tbfdwXactCallback env .abort w).next.InXact k

/-- The calls that end the remote transaction of an entry, and close its connection
where it is not to be kept. -/
def endingCalls (conn : ConnCacheEntry) : Nat := if closesAfterCommit conn then 4 else 1

/-- The entries of a list that have an open remote transaction. -/
def World.openKeys (w : World) (keys : List ConnCacheKey) : List ConnCacheKey :=
  keys.filter fun k => (w.conn k).isOpen

/-- The calls for the open entries of a list, up to the last one. -/
def World.callsBeforeLast (w : World) (keys : List ConnCacheKey) : Nat :=
  ((w.openKeys keys).dropLast.map fun k => endingCalls (w.conn k)).sum

/-- The `count` calls from the `n`-th one on succeed. -/
def allSucceed (env : Environment) (n count : Nat) : Bool :=
  (List.range count).all fun i => sqlSucceeded (env.rc (n + i))

/-- The callback comes to the last open entry: there is none, or every call for the ones
before it succeeds. In error recursion there is no call at all. -/
def reachesLast (env : Environment) (w : World) : Bool :=
  (w.openKeys w.keys).isEmpty || (w.xactGotConnection && (w.inErrorRecursionTrouble ||
    allSucceed env w.trace.length (w.callsBeforeLast w.keys)))

section

variable {env : Environment} {w w' : World} {key : ConnCacheKey} {keys : List ConnCacheKey}

theorem allSucceed_add (n a b : Nat) :
    allSucceed env n (a + b) = (allSucceed env n a && allSucceed env (n + a) b) := by
  rw [allSucceed, List.range_add, List.all_append, List.all_map]
  simp only [allSucceed, Function.comp_def, Nat.add_assoc]

/-! ## The open entries -/

theorem ConnCacheEntry.isOpen_iff {conn : ConnCacheEntry} :
    conn.isOpen = true ↔ conn.connected = true ∧ conn.beginRemoteXact = true :=
  Bool.and_eq_true_iff

theorem ConnCacheEntry.isOpen_eq_false {conn : ConnCacheEntry} :
    conn.isOpen = false ↔ ¬(conn.connected = true ∧ conn.beginRemoteXact = true) := by
  rw [← ConnCacheEntry.isOpen_iff, Bool.not_eq_true]

theorem SameButInvalidated.isOpen {c c' : ConnCacheEntry} (h : SameButInvalidated c c') :
    c'.isOpen = c.isOpen := by
  rw [ConnCacheEntry.isOpen, h.connected, h.beginRemoteXact]
  rfl

theorem World.inXact_iff : w.InXact key ↔ key ∈ w.keys ∧ (w.conn key).isOpen = true := by
  rw [World.InXact, World.Live, ConnCacheEntry.isOpen_iff, and_assoc]

theorem World.openKeys_cons :
    w.openKeys (key :: keys) =
      if (w.conn key).isOpen then key :: w.openKeys keys else w.openKeys keys :=
  List.filter_cons

/-- An entry that is not open asks for no call. -/
theorem World.callsBeforeLast_cons_closed (hkey : (w.conn key).isOpen = false) :
    w.callsBeforeLast (key :: keys) = w.callsBeforeLast keys := by
  rw [World.callsBeforeLast, World.openKeys_cons, hkey]
  rfl

/-- The last open entry asks for none that matters. -/
theorem World.callsBeforeLast_cons_last (hrest : w.openKeys keys = []) :
    w.callsBeforeLast (key :: keys) = 0 := by
  rw [World.callsBeforeLast, World.openKeys_cons, hrest]
  split_ifs <;> rfl

theorem World.callsBeforeLast_cons_open (hkey : (w.conn key).isOpen = true)
    (hrest : w.openKeys keys ≠ []) : w.callsBeforeLast (key :: keys) =
      endingCalls (w.conn key) + w.callsBeforeLast keys := by
  rw [World.callsBeforeLast, World.openKeys_cons, if_pos hkey, List.dropLast_cons_of_ne_nil hrest,
    List.map_cons, List.sum_cons]
  rfl

theorem World.callsBeforeLast_congr (h : ∀ k ∈ keys, w'.conn k = w.conn k) :
    w'.openKeys keys = w.openKeys keys ∧ w'.callsBeforeLast keys = w.callsBeforeLast keys := by
  have hopen : w'.openKeys keys = w.openKeys keys :=
    List.filter_congr fun k hk => by rw [h k hk]
  refine ⟨hopen, ?_⟩
  rw [World.callsBeforeLast, World.callsBeforeLast, hopen]
  refine congrArg List.sum (List.map_congr_left fun k hk => ?_)
  rw [h k (List.mem_filter.mp (List.dropLast_subset _ hk)).1]

/-! ## One entry -/

/-- Ending the transaction of an entry succeeds when its calls do. -/
theorem endRemoteXact_isOk_iff {completionType : CompletionType}
    (hconn : (w.conn key).connected = true) :
    (endRemoteXact env key completionType w).isOk =
      allSucceed env w.trace.length (endingCalls (w.conn key)) := by
  rw [endRemoteXact_isOk hconn, endingCalls]
  rcases closesAfterCommit (w.conn key) with _ | _
  · simp [allSucceed, World.nextRc]
  · simp [allSucceed, World.nextRc, closesCleanly, List.range_succ, Bool.and_assoc]

/-- The calls that were made when it succeeds. -/
theorem endRemoteXact_length {completionType : CompletionType} {u : Unit}
    (hconn : (w.conn key).connected = true)
    (h : endRemoteXact env key completionType w = .ok u w') :
    w'.trace.length = w.trace.length + endingCalls (w.conn key) := by
  have hrc : sqlSucceeded (w.nextRc env) = true := by
    by_contra hrc
    rw [endRemoteXact_fails hconn hrc] at h
    cases h
  rw [endRemoteXact_completes hconn hrc] at h
  rw [endingCalls]
  rcases hcloses : closesAfterCommit (w.conn key) with _ | _
  · rw [hcloses] at h
    cases h
    exact World.completed_length
  · rw [hcloses, Proc.when_true] at h
    rcases disconnectTbServer_ok h with ⟨hno, -⟩ | ⟨-, rfl, -⟩
    · rw [World.completed_connected hconn] at hno
      cases hno
    · simp [World.disconnected, World.completed_length]

/-- The callback changes one entry at a time. -/
theorem xactCallbackEntry_others (event : XactEvent) {k : ConnCacheKey} (hk : k ≠ key) :
    SameButInvalidated (w.conn k) ((xactCallbackEntry env event key w).next.conn k) := by
  have hend : ∀ completionType,
      SameButInvalidated (w.conn k) ((endRemoteXact env key completionType w).next.conn k) := by
    intro completionType
    have hconfines := @endRemoteXact_confines env w key completionType
    rcases hrun : endRemoteXact env key completionType w with ⟨u, w'⟩ | ⟨e, w'⟩
    · exact (hconfines.apply_ok hrun).others k hk
    · exact (hconfines.apply_raise hrun).1.others k hk
  rw [xactCallbackEntry, Proc.read_bind_run]
  rcases (w.conn key).beginRemoteXact with _ | _
  · exact .refl _
  rw [Proc.when_true]
  cases event with
  | preCommit | parallelPreCommit => exact hend .commit
  | prePrepare | commit | parallelCommit | prepare => exact .refl _
  | abort | parallelAbort =>
    dsimp only
    split_ifs
    · have hsame : ∀ f, (modifyConn key f w).next.conn k = w.conn k := World.setConn_of_ne hk
      rw [hsame]
      exact .refl _
    · exact hend .rollback

/-- Entries that are not in the list stay as they are. -/
theorem xactCallbackLoop_others (event : XactEvent) {k : ConnCacheKey} (hk : k ∉ keys) :
    SameButInvalidated (w.conn k)
      ((Proc.forEach keys (xactCallbackEntry env event) w).next.conn k) := by
  induction keys generalizing w with
  | nil => exact .refl _
  | cons key rest ih =>
    have hfirst := @xactCallbackEntry_others env w key event k fun heq =>
      hk (heq ▸ List.mem_cons_self ..)
    rw [Proc.forEach_cons]
    rcases hrun : xactCallbackEntry env event key w with ⟨u, w₁⟩ | ⟨e, w₁⟩ <;>
      rw [hrun] at hfirst
    · rw [Proc.bind_of_ok hrun]
      exact hfirst.trans (ih fun hmem => hk (List.mem_cons_of_mem _ hmem))
    · rw [Proc.bind_of_raise hrun]
      exact hfirst

/-! ## The loop -/

/-- In error recursion every entry is given up. -/
theorem abortLoop_trouble (htrouble : w.inErrorRecursionTrouble = true) (hnodup : keys.Nodup) :
    ∀ k ∈ keys,
      ((Proc.forEach keys (xactCallbackEntry env .abort) w).next.conn k).isOpen = false := by
  induction keys generalizing w with
  | nil => exact fun k hk => (List.not_mem_nil hk).elim
  | cons key rest ih =>
    obtain ⟨hkey, hrest⟩ := List.nodup_cons.mp hnodup
    obtain ⟨w₁, hentry, htrouble₁, hclosed⟩ : ∃ w₁, xactCallbackEntry env .abort key w = .ok () w₁ ∧
        w₁.inErrorRecursionTrouble = true ∧ (w₁.conn key).isOpen = false := by
      rw [xactCallbackEntry, Proc.read_bind_run, htrouble]
      rcases hbegun : (w.conn key).beginRemoteXact with _ | _
      · exact ⟨w, rfl, htrouble, by rw [ConnCacheEntry.isOpen, hbegun, Bool.and_false]⟩
      · refine ⟨_, rfl, htrouble, ?_⟩
        rw [World.setConn_self]
        rfl
    rw [Proc.forEach_cons, Proc.bind_of_ok hentry]
    intro k hk
    rcases List.mem_cons.mp hk with rfl | hk
    · rw [(xactCallbackLoop_others .abort hkey).isOpen, hclosed]
    · exact ih htrouble₁ hrest k hk

/-- What the loop does with an open entry, and what is left of the others. -/
theorem abortLoop_open (htrouble : w.inErrorRecursionTrouble = false)
    (hopen : (w.conn key).isOpen = true) (hkey : key ∉ keys) :
    ((∃ w₁, xactCallbackEntry env .abort key w = .ok () w₁ ∧
        allSucceed env w.trace.length (endingCalls (w.conn key)) = true ∧
        w₁.trace.length = w.trace.length + endingCalls (w.conn key) ∧
        w₁.inErrorRecursionTrouble = false ∧ (w₁.conn key).isOpen = false ∧
        ∀ k ∈ keys, w₁.conn k = w.conn k) ∨
      ∃ e w₁, xactCallbackEntry env .abort key w = .raise e w₁ ∧
        allSucceed env w.trace.length (endingCalls (w.conn key)) = false ∧
        (w₁.conn key).isOpen = false ∧ ∀ k ∈ keys, (w₁.conn k).isOpen = (w.conn k).isOpen) := by
  obtain ⟨hconn, hbegun⟩ := ConnCacheEntry.isOpen_iff.mp hopen
  have hne : ∀ k ∈ keys, k ≠ key := fun k hk heq => hkey (heq ▸ hk)
  have hentry : xactCallbackEntry env .abort key w = endRemoteXact env key .rollback w := by
    rw [xactCallbackEntry_run rfl fun _ => htrouble, hbegun, Proc.when_true]
  have hok := @endRemoteXact_isOk_iff env w key .rollback hconn
  rw [hentry]
  rcases hrun : endRemoteXact env key .rollback w with ⟨u, w₁⟩ | ⟨e, w₁⟩
  · -- the transaction is rolled back, and the connection closed or kept
    have hended := endRemoteXact_ok hconn hrun
    rw [hrun] at hok
    refine .inl ⟨w₁, rfl, hok.symm, endRemoteXact_length hconn hrun, ?_, ?_, ?_⟩
    · exact hended.inErrorRecursionTrouble.trans htrouble
    · rw [ConnCacheEntry.isOpen, hended.beginRemoteXact, Bool.and_false]
    · exact fun k hk => hended.others k (hne k hk)
  · -- the entry has lost its connection
    obtain ⟨hconfined, hlost⟩ := (endRemoteXact_confines .rollback).apply_raise hrun
    rw [hrun] at hok
    refine .inr ⟨e, w₁, rfl, hok.symm, ?_, fun k hk => (hconfined.others k (hne k hk)).isOpen⟩
    rw [ConnCacheEntry.isOpen, hlost, Bool.false_and]

/-- **The loop leaves no open entry** exactly when the calls before the last one succeed. The
first error ends it, and only the last entry may be the one that fails. -/
theorem abortLoop_iff (htrouble : w.inErrorRecursionTrouble = false) (hnodup : keys.Nodup) :
    (∀ k ∈ keys,
      ((Proc.forEach keys (xactCallbackEntry env .abort) w).next.conn k).isOpen = false) ↔
      allSucceed env w.trace.length (w.callsBeforeLast keys) = true := by
  induction keys generalizing w with
  | nil => exact ⟨fun _ => rfl, fun _ k hk => (List.not_mem_nil hk).elim⟩
  | cons key rest ih =>
    obtain ⟨hkey, hrest⟩ := List.nodup_cons.mp hnodup
    rw [Proc.forEach_cons]
    rcases hopen : (w.conn key).isOpen with _ | _
    · -- an entry that is not open is passed over
      rw [Proc.bind_of_ok (xactCallbackEntry_passes rfl (fun _ => htrouble)
        (ConnCacheEntry.isOpen_eq_false.mp hopen)), World.callsBeforeLast_cons_closed hopen,
        ← ih htrouble hrest, List.forall_mem_cons]
      exact and_iff_right ((xactCallbackLoop_others .abort hkey).isOpen.trans hopen)
    rcases abortLoop_open htrouble hopen hkey with ⟨w₁, hentry, hcalls, hlength, htrouble₁, hclosed,
      hothers⟩ | ⟨e, w₁, hentry, hcalls, hclosed, hothers⟩
    · obtain ⟨hkeys, hcount⟩ := World.callsBeforeLast_congr hothers
      rw [Proc.bind_of_ok hentry, List.forall_mem_cons, ih htrouble₁ hrest, hlength, hcount]
      rw [and_iff_right ((xactCallbackLoop_others .abort hkey).isOpen.trans hclosed)]
      by_cases hlast : w.openKeys rest = []
      · rw [World.callsBeforeLast_cons_last hlast, World.callsBeforeLast, hlast]
        exact Iff.rfl
      · rw [World.callsBeforeLast_cons_open hopen hlast, allSucceed_add, hcalls, Bool.true_and]
    · rw [Proc.bind_of_raise hentry, List.forall_mem_cons, Outcome.next_raise,
        and_iff_right hclosed]
      by_cases hlast : w.openKeys rest = []
      · -- the error is one of the last open entry
        rw [World.callsBeforeLast_cons_last hlast]
        refine ⟨fun _ => rfl, fun _ k hk => (hothers k hk).trans ?_⟩
        simpa using List.filter_eq_nil_iff.mp hlast k hk
      · -- an open entry is not visited
        rw [World.callsBeforeLast_cons_open hopen hlast, allSucceed_add, hcalls, Bool.false_and]
        refine iff_of_false (fun hnone => ?_) Bool.false_ne_true
        obtain ⟨k, hk⟩ := List.exists_mem_of_ne_nil _ hlast
        obtain ⟨hmem, hstill⟩ := List.mem_filter.mp hk
        rw [← hothers k hmem, hnone k hmem] at hstill
        cases hstill

/-! ## The callback -/

/-- What the callback leaves of the entries is what the loop leaves of them. -/
theorem tbfdwXactCallback_conn {event : XactEvent} {w₁ : World}
    (hw₁ : w₁ = { w with useSleepOnSig := true }) (hgot : w.xactGotConnection = true) :
    (tbfdwXactCallback env event w).next.conn =
      (Proc.forEach w.keys (xactCallbackEntry env event) w₁).next.conn := by
  rw [tbfdwXactCallback, Proc.read_bind_run, hgot, Proc.when_true, setSleepOnSigOn,
    Proc.modify_bind_run, ← hw₁]
  rcases hrun : Proc.forEach w.keys (xactCallbackEntry env event) w₁ with ⟨u, w'⟩ | ⟨e, w'⟩
  · rw [Proc.bind_of_ok hrun]
    rfl
  · rw [Proc.bind_of_raise hrun]

theorem abortReachesAll_iff_closed : AbortReachesAll env w ↔
    ∀ k ∈ w.keys, ((tbfdwXactCallback env .abort w).next.conn k).isOpen = false := by
  have hkeys : (tbfdwXactCallback env .abort w).next.keys = w.keys :=
    ((tbfdwXactCallback_settled .abort).next (Settled.refl w)).keys
  simp only [AbortReachesAll, World.inXact_iff, hkeys, not_and, Bool.not_eq_true]

/-- **When the callback leaves no remote transaction open**: exactly when it comes to the
last one, because every call for the ones before it succeeds. The first error ends the loop over
the cache, and the entries behind it keep their transactions. -/
theorem abortReachesAll_iff (hnodup : w.keys.Nodup) :
    AbortReachesAll env w ↔ reachesLast env w = true := by
  rw [abortReachesAll_iff_closed]
  rcases hgot : w.xactGotConnection with _ | _
  · -- the transaction asked for no connection, and the callback returns at once
    have hrun : tbfdwXactCallback env .abort w = .ok () w := by
      rw [tbfdwXactCallback, Proc.read_bind_run, hgot]
      rfl
    rw [hrun, Outcome.next_ok, reachesLast, hgot, Bool.false_and, Bool.or_false,
      List.isEmpty_iff, World.openKeys, List.filter_eq_nil_iff]
    simp only [Bool.not_eq_true]
  · obtain ⟨w₁, hw₁⟩ : ∃ w₁, w₁ = { w with useSleepOnSig := true } := ⟨_, rfl⟩
    rw [tbfdwXactCallback_conn hw₁ hgot, reachesLast, hgot, Bool.true_and]
    rcases htrouble : w.inErrorRecursionTrouble with _ | _
    · have hloop := @abortLoop_iff env w₁ w.keys (by rw [hw₁]; exact htrouble) hnodup
      have hcount : w₁.callsBeforeLast w.keys = w.callsBeforeLast w.keys := by rw [hw₁]; rfl
      have htrace : w₁.trace = w.trace := by rw [hw₁]
      rw [hloop, hcount, htrace, Bool.false_or, Bool.or_eq_true, List.isEmpty_iff]
      -- without an open entry there is no call
      refine ⟨.inr, fun h => h.elim (fun hnone => ?_) id⟩
      rw [World.callsBeforeLast, hnone]
      rfl
    · have hloop := @abortLoop_trouble env w₁ w.keys (by rw [hw₁]; exact htrouble) hnodup
      simp only [Bool.true_or, Bool.or_true, iff_true]
      exact hloop

end

/-- A backend with two connections, both in a remote transaction. -/
def World.inTwoXacts : World :=
  { World.start with
    keys := [1, 2]
    conn := fun k => ⟨k, k + 2, true, true, false, true, 7, 7, k, [], 0⟩
    xactGotConnection := true }

/-- Both are rolled back. -/
theorem twoXacts_rolledBack : AbortReachesAll .succeeding .inTwoXacts :=
  (abortReachesAll_iff (by decide)).mpr (by decide)

/-- A driver that fails to roll the first one back. -/
def Environment.failsToRollBack : Environment :=
  { Environment.succeeding with rc := fun n => if n = 0 then -1 else SQL_SUCCESS }

/-- The second one stays open. -/
theorem deadConnection_leavesOpen : ¬AbortReachesAll .failsToRollBack .inTwoXacts :=
  fun h => h 2 (by rw [World.inXact_iff]; decide)

end TiberoFdw
