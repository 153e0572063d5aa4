import TiberoFdw.OneEntry
import TiberoFdw.Sessions

/-!
# Driver handles

Which handles may be used after some calls (`Handles`): an allocation brings one, a
call that frees it takes it away, and a statement goes with its connection. The
entries of the cache that are connected own their two handles (`HandlesKept`):

* a call on a handle that is there changes nothing;
* what disconnects an entry uses its handles until it frees them (`Closing`);
* what connects one uses those that it allocates (`Dialing`).
-/

namespace TiberoFdw

/-! ## The handles that are there -/

/-- The handles that were allocated and not freed. -/
structure Handles where
  env : Handle → Bool
  dbc : Handle → Bool
  /-- the statements that were not dropped -/
  stmt : Handle → Bool
  /-- the connection of a statement -/
  session : Handle → Handle
  /-- the statement went with its connection -/
  ended : Handle → Bool

namespace Handles

/-- No handle was allocated. -/
def initial : Handles :=
  ⟨fun _ => false, fun _ => false, fun _ => false, fun _ => SQL_NULL_HANDLE, fun _ => false⟩

/-- The statements of a connection go. -/
def endSession (hs : Handles) (hdbc : Handle) : Handles :=
  { hs with ended := fun h => hs.ended h || (hs.stmt h && hs.session h == hdbc) }

/-- What a successful call does. -/
def effect (hs : Handles) : SqlCall → Handles
  | .allocHandle .env _ h => { hs with env := Remote.set hs.env h true }
  | .allocHandle .dbc _ h => { hs with dbc := Remote.set hs.dbc h true }
  | .allocHandle .stmt hdbc h =>
    { hs with
      stmt := Remote.set hs.stmt h true
      session := Remote.set hs.session h hdbc
      ended := Remote.set hs.ended h false }
  | .freeHandle .env h => { hs with env := Remote.set hs.env h false }
  | .freeHandle .dbc h => { hs.endSession h with dbc := Remote.set hs.dbc h false }
  | .freeHandle .stmt h => { hs with stmt := Remote.set hs.stmt h false }
  | .disconnect h => hs.endSession h
  | .freeStmt h .drop => { hs with stmt := Remote.set hs.stmt h false }
  | _ => hs

/-- The effect of a call, when it has succeeded. -/
def step (hs : Handles) (issued : Issued) : Handles :=
  if sqlSucceeded issued.rc then hs.effect issued.call else hs

/-- The handles after some calls. -/
def ofTrace (calls : List Issued) : Handles := calls.foldl step initial

theorem ofTrace_concat (calls : List Issued) (issued : Issued) :
    ofTrace (calls ++ [issued]) = (ofTrace calls).step issued := by
  rw [ofTrace, List.foldl_append]
  rfl

/-- The statement may be used. -/
def usable (hs : Handles) (hstmt : Handle) : Bool := hs.stmt hstmt && !hs.ended hstmt

end Handles

/-- The handle that a call is issued on is there. -/
def SqlCall.onLive (hs : Handles) : SqlCall → Bool
  | .allocHandle .env _ _ => true
  | .allocHandle .dbc henv _ => hs.env henv
  | .allocHandle .stmt hdbc _ => hs.dbc hdbc
  | .setEnvAttr henv _ _ => hs.env henv
  | .setConnectAttr hdbc _ _ | .driverConnect hdbc _ | .disconnect hdbc | .endTran hdbc _ =>
    hs.dbc hdbc
  | .freeHandle .env h => hs.env h
  | .freeHandle .dbc h => hs.dbc h
  | .freeHandle .stmt h => hs.usable h
  | .freeStmt h _ | .execDirect h _ | .prepare h _ | .execute h _ | .fetch h => hs.usable h
  | .bindCol h _ | .bindParameter h _ _ _ | .setStmtAttr h _ _ => hs.usable h
  | .numResultCols h | .describeCol h _ => hs.usable h

/-- Every call was issued on a handle that was there. -/
def UsesLive (calls : List Issued) : Prop :=
  ∀ n (i : Issued), calls[n]? = some i →
    i.call.onLive (Handles.ofTrace (calls.take n)) = true

theorem UsesLive.concat {calls : List Issued} {i : Issued} (h : UsesLive calls)
    (hi : i.call.onLive (Handles.ofTrace calls) = true) : UsesLive (calls ++ [i]) := by
  intro n j hj
  by_cases hn : n < calls.length
  · rw [List.getElem?_append_left hn] at hj
    rw [List.take_append_of_le_length (Nat.le_of_lt hn)]
    exact h n j hj
  · obtain rfl : n = calls.length := by
      have hlt := (List.getElem?_eq_some_iff.mp hj).1
      rw [List.length_append, List.length_singleton] at hlt
      omega
    rw [List.getElem?_concat_length] at hj
    cases hj
    rw [List.take_left]
    exact hi

/-- The handles of a world. -/
def World.handles (w : World) : Handles := Handles.ofTrace w.trace

/-- A call that neither allocates nor frees. -/
def SqlCall.keepsHandles : SqlCall → Bool
  | .allocHandle _ _ _ | .freeHandle _ _ | .disconnect _ | .freeStmt _ .drop => false
  | _ => true

section

variable {env : Environment} {w w' : World} {key : ConnCacheKey} {S : Handle → Prop}

theorem Handles.effect_keeps {call : SqlCall} (hcall : call.keepsHandles = true) (hs : Handles) :
    hs.effect call = hs := by
  cases call with
  | allocHandle | freeHandle | disconnect => cases hcall
  | freeStmt h option =>
    cases option with
    | close => rfl
    | drop => cases hcall
  | _ => rfl

theorem World.issued_handles (call : SqlCall) (rc : SqlReturn) :
    (w.issued env call rc).handles = w.handles.step ⟨call, rc⟩ :=
  Handles.ofTrace_concat ..

/-- The handles after a call that neither allocates nor frees, or fails. -/
theorem World.issued_handles_same {call : SqlCall} {rc : SqlReturn}
    (hcall : sqlSucceeded rc = true → call.keepsHandles = true) :
    (w.issued env call rc).handles = w.handles := by
  rw [World.issued_handles, Handles.step]
  split_ifs with hrc
  · exact Handles.effect_keeps (hcall hrc) _
  · rfl

theorem World.issued_handles_ok {call : SqlCall} {rc : SqlReturn} (hrc : sqlSucceeded rc = true) :
    (w.issued env call rc).handles = w.handles.effect call := by
  rw [World.issued_handles, Handles.step, if_pos hrc]

/-! ## Owners -/

/-- The entries that are connected own their handles, and the statements in `S` are
not dropped. -/
structure HandlesKept (S : Handle → Prop) (w : World) : Prop where
  used : UsesLive w.trace
  env : ∀ k, w.Live k → w.handles.env (w.conn k).henv = true ∧ (w.conn k).henv ≤ w.trace.length
  dbc : ∀ k, w.Live k → w.handles.dbc (w.conn k).hdbc = true ∧ (w.conn k).hdbc ≤ w.trace.length
  separate : ∀ k k', w.Live k → w.Live k' → k ≠ k' →
    (w.conn k).henv ≠ (w.conn k').henv ∧ (w.conn k).hdbc ≠ (w.conn k').hdbc
  session : ∀ h, w.handles.stmt h = true → w.handles.session h ≤ w.trace.length
  ended : ∀ h k, w.handles.stmt h = true → w.handles.ended h = true → w.Live k →
    w.handles.session h ≠ (w.conn k).hdbc
  stmts : ∀ h, S h → w.handles.stmt h = true ∧ h ≤ w.trace.length

/-- The same calls, and no connection that was not there. -/
theorem HandlesKept.of_conn (h : HandlesKept S w) (htrace : w'.trace = w.trace)
    (hconn : ∀ k, w'.Live k → w.Live k ∧ (w'.conn k).henv = (w.conn k).henv ∧
      (w'.conn k).hdbc = (w.conn k).hdbc) : HandlesKept S w' := by
  have hhandles : w'.handles = w.handles := by rw [World.handles, World.handles, htrace]
  constructor
  · rw [htrace]
    exact h.used
  · intro k hk
    -- a live entry keeps its handles, and the driver keeps what they stand for
    obtain ⟨hlive, henv, -⟩ := hconn k hk
    rw [hhandles, henv, htrace]
    exact h.env k hlive
  · intro k hk
    obtain ⟨hlive, -, hdbc⟩ := hconn k hk
    rw [hhandles, hdbc, htrace]
    exact h.dbc k hlive
  · intro k k' hk hk' hne
    obtain ⟨hlive, henv, hdbc⟩ := hconn k hk
    obtain ⟨hlive', henv', hdbc'⟩ := hconn k' hk'
    rw [henv, hdbc, henv', hdbc']
    exact h.separate k k' hlive hlive' hne
  · rw [hhandles, htrace]
    exact h.session
  · intro hstmt k hopen hended hk
    obtain ⟨hlive, -, hdbc⟩ := hconn k hk
    rw [hhandles] at hopen hended ⊢
    rw [hdbc]
    exact h.ended hstmt k hopen hended hlive
  · rw [hhandles, htrace]
    exact h.stmts

theorem HandlesKept.same (h : HandlesKept S w) (htrace : w'.trace = w.trace)
    (hconn : w'.conn = w.conn) (hkeys : w'.keys = w.keys) : HandlesKept S w' := by
  refine h.of_conn htrace fun k hk => ?_
  rw [World.Live, hconn, hkeys] at hk
  rw [hconn]
  exact ⟨hk, rfl, rfl⟩

theorem HandlesKept.invalidated (h : HandlesKept S w) (cacheid : CacheId) (hashvalue : Nat) :
    HandlesKept S (w.invalidated cacheid hashvalue) := by
  refine h.of_conn rfl fun k hk => ?_
  have hconn : (w.invalidated cacheid hashvalue).conn k =
      invalidateEntry cacheid hashvalue (w.conn k) := if_pos hk.1
  have hconnected := hk.2
  rw [hconn, invalidateEntry] at hconnected
  rw [hconn, invalidateEntry]
  split_ifs at hconnected ⊢
  · exact ⟨⟨hk.1, hconnected⟩, rfl, rfl⟩
  · exact ⟨⟨hk.1, hconnected⟩, rfl, rfl⟩

/-- A call on a handle that is there, which neither allocates nor frees, or fails. -/
theorem HandlesKept.issued (h : HandlesKept S w) {call : SqlCall} {rc : SqlReturn}
    (hlive : call.onLive w.handles = true)
    (hcall : sqlSucceeded rc = true → call.keepsHandles = true) :
    HandlesKept S (w.issued env call rc) := by
  have hhandles : (w.issued env call rc).handles = w.handles := World.issued_handles_same hcall
  have hlen : w.trace.length ≤ (w.issued env call rc).trace.length := by simp
  constructor
  · exact h.used.concat hlive
  · intro k hk
    rw [hhandles]
    exact ⟨(h.env k hk).1, Nat.le_trans (h.env k hk).2 hlen⟩
  · intro k hk
    rw [hhandles]
    exact ⟨(h.dbc k hk).1, Nat.le_trans (h.dbc k hk).2 hlen⟩
  · exact h.separate
  · intro hstmt hopen
    rw [hhandles] at hopen ⊢
    exact Nat.le_trans (h.session hstmt hopen) hlen
  · intro hstmt k hopen hended hk
    rw [hhandles] at hopen hended ⊢
    exact h.ended hstmt k hopen hended hk
  · intro hstmt hS
    rw [hhandles]
    exact ⟨(h.stmts hstmt hS).1, Nat.le_trans (h.stmts hstmt hS).2 hlen⟩

/-- A statement is opened on a connection that is there. -/
theorem HandlesKept.opened (h : HandlesKept S w) (hk : w.Live key) {rc : SqlReturn}
    (hrc : sqlSucceeded rc = true) :
    HandlesKept S (w.issued env (.allocHandle .stmt (w.conn key).hdbc (w.trace.length + 1)) rc) ∧
      (w.issued env (.allocHandle .stmt (w.conn key).hdbc (w.trace.length + 1)) rc).handles.usable
        (w.trace.length + 1) = true := by
  have hlen := @World.issued_length env w
    (.allocHandle .stmt (w.conn key).hdbc (w.trace.length + 1)) rc
  have hle : w.trace.length ≤ w.trace.length + 1 := Nat.le_succ _
  refine ⟨⟨h.used.concat (h.dbc key hk).1, ?_, ?_, h.separate, ?_, ?_, ?_⟩, ?_⟩ <;>
    rw [World.issued_handles_ok hrc]
  · intro k hk
    rw [hlen]
    exact ⟨(h.env k hk).1, Nat.le_trans (h.env k hk).2 hle⟩
  · intro k hk
    rw [hlen]
    exact ⟨(h.dbc k hk).1, Nat.le_trans (h.dbc k hk).2 hle⟩
  · intro hstmt hopen
    rw [hlen]
    by_cases heq : hstmt = w.trace.length + 1
    · subst heq
      simpa [Handles.effect] using Nat.le_trans (h.dbc key hk).2 hle
    · simp only [Handles.effect, Remote.set_of_ne heq] at hopen ⊢
      exact Nat.le_trans (h.session hstmt hopen) hle
  · intro hstmt k hopen hended hk
    by_cases heq : hstmt = w.trace.length + 1
    · subst heq
      simp [Handles.effect] at hended
    · simp only [Handles.effect, Remote.set_of_ne heq] at hopen hended ⊢
      exact h.ended hstmt k hopen hended hk
  · -- the new handle is younger than every statement that is watched
    intro hstmt hS
    have hold := h.stmts hstmt hS
    have heq : hstmt ≠ w.trace.length + 1 := Nat.ne_of_lt (Nat.lt_succ_of_le hold.2)
    rw [hlen]
    simp only [Handles.effect, Remote.set_of_ne heq]
    exact ⟨hold.1, Nat.le_trans hold.2 hle⟩
  · simp [Handles.effect, Handles.usable]

/-- A statement that is not in `S` is dropped. -/
theorem HandlesKept.dropped (h : HandlesKept S w) {hstmt : Handle}
    (husable : w.handles.usable hstmt = true) (hS : ¬S hstmt) (rc : SqlReturn) :
    HandlesKept S (w.issued env (.freeStmt hstmt .drop) rc) := by
  by_cases hrc : sqlSucceeded rc = true
  · have hlen := @World.issued_length env w (.freeStmt hstmt .drop) rc
    have hle : w.trace.length ≤ w.trace.length + 1 := Nat.le_succ _
    -- one statement less is open
    have hopen : ∀ {h'}, Remote.set w.handles.stmt hstmt false h' = true →
        w.handles.stmt h' = true := by
      intro h' hset
      by_cases heq : h' = hstmt
      · subst heq
        simp at hset
      · rwa [Remote.set_of_ne heq] at hset
    refine ⟨h.used.concat husable, ?_, ?_, h.separate, ?_, ?_, ?_⟩ <;>
      rw [World.issued_handles_ok hrc]
    · intro k hk
      rw [hlen]
      exact ⟨(h.env k hk).1, Nat.le_trans (h.env k hk).2 hle⟩
    · intro k hk
      rw [hlen]
      exact ⟨(h.dbc k hk).1, Nat.le_trans (h.dbc k hk).2 hle⟩
    · intro h' hset
      rw [hlen]
      exact Nat.le_trans (h.session h' (hopen hset)) hle
    · intro h' k hset hended hk
      exact h.ended h' k (hopen hset) hended hk
    · intro h' hS'
      have hold := h.stmts h' hS'
      -- the statement that is dropped is not watched
      have heq : h' ≠ hstmt := by
        rintro rfl
        exact hS hS'
      rw [hlen]
      exact ⟨(Remote.set_of_ne heq).trans hold.1, Nat.le_trans hold.2 hle⟩
  · exact h.issued husable fun hrc' => (hrc hrc').elim

/-! ## Disconnecting -/

/-- The calls since `w` have freed handles of the entry and its statements, at most. -/
structure Closing (key : ConnCacheKey) (w w' : World) : Prop where
  used : UsesLive w'.trace
  keys : w'.keys = w.keys
  conn : w'.conn = w.conn
  length : w.trace.length ≤ w'.trace.length
  env : ∀ h, h ≠ (w.conn key).henv → w'.handles.env h = w.handles.env h
  dbc : ∀ h, h ≠ (w.conn key).hdbc → w'.handles.dbc h = w.handles.dbc h
  stmt : w'.handles.stmt = w.handles.stmt
  session : w'.handles.session = w.handles.session
  ended : ∀ h, w'.handles.ended h = true →
    w.handles.ended h = true ∨ w.handles.session h = (w.conn key).hdbc

theorem HandlesKept.closing (h : HandlesKept S w) (key : ConnCacheKey) : Closing key w w :=
  ⟨h.used, rfl, rfl, Nat.le_refl _, fun _ _ => rfl, fun _ _ => rfl, rfl, rfl, fun _ => .inl⟩

namespace Closing

variable {w₁ : World}

theorem failed (hc : Closing key w w₁) {call : SqlCall} {rc : SqlReturn}
    (hlive : call.onLive w₁.handles = true) (hrc : ¬sqlSucceeded rc = true) :
    Closing key w (w₁.issued env call rc) := by
  have hsame : (w₁.issued env call rc).handles = w₁.handles :=
    World.issued_handles_same fun hrc' => (hrc hrc').elim
  refine ⟨hc.used.concat hlive, hc.keys, hc.conn, ?_, ?_, ?_, ?_, ?_, ?_⟩
  · rw [World.issued_length]
    exact Nat.le_succ_of_le hc.length
  all_goals rw [hsame]
  · exact hc.env
  · exact hc.dbc
  · exact hc.stmt
  · exact hc.session
  · exact hc.ended

/-- The connection is disconnected. -/
theorem disconnect (hc : Closing key w w₁) (hlive : w₁.handles.dbc (w.conn key).hdbc = true)
    (rc : SqlReturn) : Closing key w (w₁.issued env (.disconnect (w.conn key).hdbc) rc) := by
  by_cases hrc : sqlSucceeded rc = true
  · refine ⟨hc.used.concat hlive, hc.keys, hc.conn, ?_, ?_, ?_, ?_, ?_, ?_⟩
    · rw [World.issued_length]
      exact Nat.le_succ_of_le hc.length
    all_goals rw [World.issued_handles_ok hrc]
    · exact hc.env
    · exact hc.dbc
    · exact hc.stmt
    · exact hc.session
    · intro h hended
      simp only [Handles.effect, Handles.endSession, Bool.or_eq_true, Bool.and_eq_true, beq_iff_eq,
        hc.session] at hended
      rcases hended with hended | ⟨-, hsession⟩
      · exact hc.ended h hended
      · exact .inr hsession
  · exact hc.failed hlive hrc

/-- The connection handle is freed. -/
theorem freeDbc (hc : Closing key w w₁) (hlive : w₁.handles.dbc (w.conn key).hdbc = true)
    (rc : SqlReturn) : Closing key w (w₁.issued env (.freeHandle .dbc (w.conn key).hdbc) rc) := by
  by_cases hrc : sqlSucceeded rc = true
  · refine ⟨hc.used.concat hlive, hc.keys, hc.conn, ?_, ?_, ?_, ?_, ?_, ?_⟩
    · rw [World.issued_length]
      exact Nat.le_succ_of_le hc.length
    all_goals rw [World.issued_handles_ok hrc]
    · exact hc.env
    · intro h hne
      exact (Remote.set_of_ne hne).trans (hc.dbc h hne)
    · exact hc.stmt
    · exact hc.session
    · intro h hended
      simp only [Handles.effect, Handles.endSession, Bool.or_eq_true, Bool.and_eq_true, beq_iff_eq,
        hc.session] at hended
      rcases hended with hended | ⟨-, hsession⟩
      · exact hc.ended h hended
      · exact .inr hsession
  · exact hc.failed hlive hrc

/-- The environment handle is freed. -/
theorem freeEnv (hc : Closing key w w₁) (hlive : w₁.handles.env (w.conn key).henv = true)
    (rc : SqlReturn) : Closing key w (w₁.issued env (.freeHandle .env (w.conn key).henv) rc) := by
  by_cases hrc : sqlSucceeded rc = true
  · refine ⟨hc.used.concat hlive, hc.keys, hc.conn, ?_, ?_, ?_, ?_, ?_, ?_⟩
    · rw [World.issued_length]
      exact Nat.le_succ_of_le hc.length
    all_goals rw [World.issued_handles_ok hrc]
    · intro h hne
      exact (Remote.set_of_ne hne).trans (hc.env h hne)
    · exact hc.dbc
    · exact hc.stmt
    · exact hc.session
    · exact hc.ended
  · exact hc.failed hlive hrc

/-- The entry gives up its handles. -/
theorem released (hc : Closing key w w₁) (h : HandlesKept S w) (hk : w.Live key)
    {f : ConnCacheEntry → ConnCacheEntry} (hf : ∀ c, (f c).connected = false) :
    HandlesKept S (w₁.setConn key f) := by
  have hne : ∀ k, (w₁.setConn key f).Live k → k ≠ key ∧ w.Live k ∧
      (w₁.setConn key f).conn k = w.conn k := by
    rintro k ⟨hkeys, hconnected⟩
    have hne : k ≠ key := by
      rintro rfl
      rw [World.setConn_self, hf] at hconnected
      cases hconnected
    rw [World.setConn_of_ne hne, hc.conn] at hconnected ⊢
    rw [World.setConn_keys, hc.keys] at hkeys
    exact ⟨hne, ⟨hkeys, hconnected⟩, rfl⟩
  have hhandles : (w₁.setConn key f).handles = w₁.handles := rfl
  have hlen : (w₁.setConn key f).trace.length = w₁.trace.length := rfl
  refine ⟨hc.used, ?_, ?_, ?_, ?_, ?_, ?_⟩
  · intro k hlive
    obtain ⟨hkey, hlive, hconn⟩ := hne k hlive
    rw [hconn, hhandles, hlen, hc.env _ (h.separate k key hlive hk hkey).1]
    exact ⟨(h.env k hlive).1, Nat.le_trans (h.env k hlive).2 hc.length⟩
  · intro k hlive
    obtain ⟨hkey, hlive, hconn⟩ := hne k hlive
    rw [hconn, hhandles, hlen, hc.dbc _ (h.separate k key hlive hk hkey).2]
    exact ⟨(h.dbc k hlive).1, Nat.le_trans (h.dbc k hlive).2 hc.length⟩
  · intro k k' hlive hlive' hkk'
    obtain ⟨-, hlive, hconn⟩ := hne k hlive
    obtain ⟨-, hlive', hconn'⟩ := hne k' hlive'
    rw [hconn, hconn']
    exact h.separate k k' hlive hlive' hkk'
  · intro hstmt hopen
    rw [hhandles, hc.stmt] at hopen
    rw [hhandles, hc.session, hlen]
    exact Nat.le_trans (h.session hstmt hopen) hc.length
  · intro hstmt k hopen hended hlive
    obtain ⟨hkey, hlive, hconn⟩ := hne k hlive
    rw [hhandles, hc.stmt] at hopen
    rw [hconn, hhandles, hc.session]
    rcases hc.ended hstmt hended with hended | hsession
    · exact h.ended hstmt k hopen hended hlive
    · rw [hsession]
      exact (h.separate key k hk hlive hkey.symm).2
  · intro hstmt hS
    rw [hhandles, hc.stmt, hlen]
    exact ⟨(h.stmts hstmt hS).1, Nat.le_trans (h.stmts hstmt hS).2 hc.length⟩

/-- The three calls that disconnect, whatever they return. -/
theorem disconnected (hc : Closing key w w₁) (h : HandlesKept S w) (hk : w.Live key)
    (hdbc : w₁.handles.dbc (w.conn key).hdbc = true)
    (henv : w₁.handles.env (w.conn key).henv = true) :
    HandlesKept S (w₁.disconnected env key) := by
  have hconn : w₁.conn key = w.conn key := by rw [hc.conn]
  rw [World.disconnected, hconn]
  have hdbc₁ : (w₁.called env (.disconnect (w.conn key).hdbc)).handles.dbc
      (w.conn key).hdbc = true := by
    rw [World.called, World.issued_handles, Handles.step]
    split_ifs
    · exact hdbc
    · exact hdbc
  have henv₁ : ((w₁.called env (.disconnect (w.conn key).hdbc)).called env
      (.freeHandle .dbc (w.conn key).hdbc)).handles.env (w.conn key).henv = true := by
    rw [World.called, World.issued_handles, Handles.step, World.called, World.issued_handles,
      Handles.step]
    split_ifs
    all_goals exact henv
  exact (((hc.disconnect hdbc _).freeDbc hdbc₁ _).freeEnv henv₁ _).released h hk fun _ => rfl

end Closing

/-- Reporting disconnects a connected entry. -/
theorem HandlesKept.report (h : HandlesKept S w) (hkey : key ∈ w.keys) :
    HandlesKept S (dropConnection env key w).next := by
  rw [dropConnection_eq]
  split_ifs with hconnected
  · have hk : w.Live key := ⟨hkey, hconnected⟩
    exact (h.closing key).disconnected h hk (h.dbc key hk).1 (h.env key hk).1
  · exact h

/-- When the two handles of a connection are freed after the `n`-th call, and the first
one was, the second one is. -/
def freesBoth (env : Environment) (n : Nat) : Bool :=
  !(sqlSucceeded (env.rc n) && sqlSucceeded (env.rc (n + 1))) || sqlSucceeded (env.rc (n + 2))

/-- `disconnect_tb_server` keeps the handles, unless the environment alone is left. -/
theorem disconnectTbServer_handles (h : HandlesKept S w) (hkey : key ∈ w.keys)
    (hfrees : (w.conn key).connected = true → freesBoth env w.trace.length = true) :
    HandlesKept S (disconnectTbServer env key w).next := by
  rw [disconnectTbServer, Proc.read_bind_run]
  rcases hconnected : (w.conn key).connected with _ | _
  · exact h
  have hk : w.Live key := ⟨hkey, hconnected⟩
  have hdbc := (h.dbc key hk).1
  have henv := (h.env key hk).1
  have hclosing : Closing key w w := h.closing key
  have hdisconnect :
      tbSqlDisconnect env key w = tbCall env key (.disconnect (w.conn key).hdbc) w := by
    rw [tbSqlDisconnect, Proc.read_bind_run]
  rw [Proc.when_true, tbSqlFreeHandle, tbSqlFreeHandle]
  -- the connection that is reported is still there
  have hreport : ∀ {w₁}, Closing key w w₁ → w₁.handles.dbc (w.conn key).hdbc = true →
      w₁.handles.env (w.conn key).henv = true →
      HandlesKept S (dropConnection env key w₁).next := by
    intro w₁ hc hdbc henv
    rw [dropConnection_eq, if_pos (by rw [hc.conn]; exact hconnected)]
    exact hc.disconnected h hk hdbc henv
  by_cases hrc : sqlSucceeded (w.nextRc env) = true
  · have h₁ := @Closing.disconnect env _ _ _ hclosing hdbc (w.nextRc env)
    have hdbc₁ : (w.called env (.disconnect (w.conn key).hdbc)).handles.dbc (w.conn key).hdbc =
        true := by
      rw [World.called, World.issued_handles_ok hrc]
      exact hdbc
    have henv₁ : (w.called env (.disconnect (w.conn key).hdbc)).handles.env (w.conn key).henv =
        true := by
      rw [World.called, World.issued_handles_ok hrc]
      exact henv
    rw [Proc.bind_of_ok (hdisconnect.trans ((tbCall_eq_ok (u := ())).mpr ⟨hrc, rfl⟩))]
    by_cases hrc₁ : sqlSucceeded ((w.called env (.disconnect (w.conn key).hdbc)).nextRc env) = true
    · have hrc₂ : sqlSucceeded (env.rc (w.trace.length + 2)) = true := by
        have hboth := hfrees hconnected
        rw [World.nextRc, World.called_length] at hrc₁
        rw [World.nextRc] at hrc
        simpa [freesBoth, hrc, hrc₁] using hboth
      rw [Proc.bind_of_ok ((tbCall_eq_ok (u := ())).mpr ⟨hrc₁, rfl⟩),
        Proc.bind_of_ok ((tbCall_eq_ok (u := ())).mpr ⟨by simpa [World.nextRc] using hrc₂, rfl⟩)]
      exact hclosing.disconnected h hk hdbc henv
    · rw [Proc.bind_of_raise (tbCall_fails_run hrc₁)]
      have hsame := @World.issued_handles_same env (w.called env (.disconnect (w.conn key).hdbc))
        (.freeHandle .dbc (w.conn key).hdbc) _ fun hrc' => (hrc₁ hrc').elim
      exact hreport (h₁.failed hdbc₁ hrc₁) (hsame ▸ hdbc₁) (hsame ▸ henv₁)
  · rw [Proc.bind_of_raise (hdisconnect.trans (tbCall_fails_run hrc))]
    have hsame := @World.issued_handles_same env w (.disconnect (w.conn key).hdbc) _
      fun hrc' => (hrc hrc').elim
    exact hreport (hclosing.failed hdbc hrc) (hsame ▸ hdbc) (hsame ▸ henv)

/-! ## Connecting -/

/-- The calls since `w` were issued for an entry that is not connected yet: they have
allocated new handles, at most. -/
structure Dialing (key : ConnCacheKey) (w w' : World) : Prop where
  used : UsesLive w'.trace
  keys : w'.keys = w.keys
  others : ∀ k, k ≠ key → w'.conn k = w.conn k
  connected : (w'.conn key).connected = false
  length : w.trace.length ≤ w'.trace.length
  env : ∀ h ≤ w.trace.length, w'.handles.env h = w.handles.env h
  dbc : ∀ h ≤ w.trace.length, w'.handles.dbc h = w.handles.dbc h
  stmt : w'.handles.stmt = w.handles.stmt
  session : w'.handles.session = w.handles.session
  ended : w'.handles.ended = w.handles.ended

/-- The entry has its environment. -/
structure HasEnv (n : Nat) (key : ConnCacheKey) (w : World) : Prop where
  live : w.handles.env (w.conn key).henv = true
  new : n < (w.conn key).henv
  le : (w.conn key).henv ≤ w.trace.length

/-- The entry has its connection handle. -/
structure HasDbc (n : Nat) (key : ConnCacheKey) (w : World) : Prop where
  live : w.handles.dbc (w.conn key).hdbc = true
  new : n < (w.conn key).hdbc
  le : (w.conn key).hdbc ≤ w.trace.length

theorem HandlesKept.dialing (h : HandlesKept S w) (hno : (w.conn key).connected = false) :
    Dialing key w w :=
  ⟨h.used, rfl, fun _ _ => rfl, hno, Nat.le_refl _, fun _ _ => rfl, fun _ _ => rfl, rfl, rfl, rfl⟩

namespace Dialing

variable {w₁ : World}

theorem ne_of_live (hd : Dialing key w w₁) {k : ConnCacheKey} (hk : w₁.Live k) :
    k ≠ key ∧ w.Live k ∧ w₁.conn k = w.conn k := by
  have hne : k ≠ key := by
    rintro rfl
    have hno := hd.connected
    rw [hk.2] at hno
    cases hno
  have hconn := hd.others k hne
  exact ⟨hne, ⟨hd.keys ▸ hk.1, hconn ▸ hk.2⟩, hconn⟩

/-- An attempt that is given up. -/
theorem kept (hd : Dialing key w w₁) (h : HandlesKept S w) : HandlesKept S w₁ := by
  refine ⟨hd.used, ?_, ?_, ?_, ?_, ?_, ?_⟩
  · intro k hk
    obtain ⟨-, hlive, hconn⟩ := hd.ne_of_live hk
    rw [hconn, hd.env _ (h.env k hlive).2]
    exact ⟨(h.env k hlive).1, Nat.le_trans (h.env k hlive).2 hd.length⟩
  · intro k hk
    obtain ⟨-, hlive, hconn⟩ := hd.ne_of_live hk
    rw [hconn, hd.dbc _ (h.dbc k hlive).2]
    exact ⟨(h.dbc k hlive).1, Nat.le_trans (h.dbc k hlive).2 hd.length⟩
  · intro k k' hk hk' hne
    obtain ⟨-, hlive, hconn⟩ := hd.ne_of_live hk
    obtain ⟨-, hlive', hconn'⟩ := hd.ne_of_live hk'
    rw [hconn, hconn']
    exact h.separate k k' hlive hlive' hne
  · intro hstmt hopen
    rw [hd.stmt] at hopen
    rw [hd.session]
    exact Nat.le_trans (h.session hstmt hopen) hd.length
  · intro hstmt k hopen hended hk
    obtain ⟨-, hlive, hconn⟩ := hd.ne_of_live hk
    rw [hd.stmt] at hopen
    rw [hd.ended] at hended
    rw [hd.session, hconn]
    exact h.ended hstmt k hopen hended hlive
  · intro hstmt hS
    rw [hd.stmt]
    exact ⟨(h.stmts hstmt hS).1, Nat.le_trans (h.stmts hstmt hS).2 hd.length⟩

/-- The attempt has succeeded. -/
theorem made (hd : Dialing key w w₁) (h : HandlesKept S w) (hkey : key ∈ w.keys)
    (henv : HasEnv w.trace.length key w₁) (hdbc : HasDbc w.trace.length key w₁) :
    HandlesKept S (w₁.setConn key fun c => { c with connected := true }) := by
  have hkept := hd.kept h
  have hcases : ∀ k, (w₁.setConn key fun c => { c with connected := true }).Live k →
      (k = key ∧ ((w₁.setConn key fun c => { c with connected := true }).conn k).henv =
        (w₁.conn key).henv ∧ ((w₁.setConn key fun c => { c with connected := true }).conn k).hdbc =
        (w₁.conn key).hdbc) ∨
      (k ≠ key ∧ w₁.Live k ∧ w.Live k ∧ w₁.conn k = w.conn k ∧
        (w₁.setConn key fun c => { c with connected := true }).conn k = w₁.conn k) := by
    rintro k ⟨hkeys, hconnected⟩
    by_cases hne : k = key
    · subst hne
      rw [World.setConn_self]
      exact .inl ⟨rfl, rfl, rfl⟩
    · rw [World.setConn_of_ne hne] at hconnected ⊢
      have hlive : w₁.Live k := ⟨hkeys, hconnected⟩
      obtain ⟨-, hold, hconn⟩ := hd.ne_of_live hlive
      exact .inr ⟨hne, hlive, hold, hconn, rfl⟩
  refine ⟨hd.used, ?_, ?_, ?_, hkept.session, ?_, hkept.stmts⟩
  · intro k hk
    rcases hcases k hk with ⟨-, henv', -⟩ | ⟨-, hlive, -, -, hsame⟩
    · rw [henv']
      exact ⟨henv.live, henv.le⟩
    · rw [hsame]
      exact hkept.env k hlive
  · intro k hk
    rcases hcases k hk with ⟨-, -, hdbc'⟩ | ⟨-, hlive, -, -, hsame⟩
    · rw [hdbc']
      exact ⟨hdbc.live, hdbc.le⟩
    · rw [hsame]
      exact hkept.dbc k hlive
  · -- the new handles are newer than those of the others
    have hnew : ∀ k, w.Live k → w₁.conn k = w.conn k →
        (w₁.conn key).henv ≠ (w₁.conn k).henv ∧ (w₁.conn key).hdbc ≠ (w₁.conn k).hdbc := by
      intro k hold hconn
      rw [hconn]
      exact ⟨Nat.ne_of_gt (Nat.lt_of_le_of_lt (h.env k hold).2 henv.new),
        Nat.ne_of_gt (Nat.lt_of_le_of_lt (h.dbc k hold).2 hdbc.new)⟩
    intro k k' hk hk' hne
    rcases hcases k hk with ⟨rfl, henv₁, hdbc₁⟩ | ⟨hk, hlive, hold, hconn, hsame⟩ <;>
      rcases hcases k' hk' with ⟨rfl, henv₂, hdbc₂⟩ | ⟨hk', hlive', hold', hconn', hsame'⟩
    · exact (hne rfl).elim
    · rw [henv₁, hdbc₁, hsame']
      exact hnew k' hold' hconn'
    · rw [hsame, henv₂, hdbc₂]
      exact ⟨(hnew k hold hconn).1.symm, (hnew k hold hconn).2.symm⟩
    · rw [hsame, hsame']
      exact hkept.separate k k' hlive hlive' hne
  · intro hstmt k hopen hended hk
    rcases hcases k hk with ⟨-, -, hdbc'⟩ | ⟨-, hlive, -, -, hsame⟩
    · rw [hdbc']
      have hold : w.handles.stmt hstmt = true := hd.stmt ▸ hopen
      have hsession : w₁.handles.session hstmt ≤ w.trace.length := by
        rw [hd.session]
        exact h.session hstmt hold
      exact Nat.ne_of_lt (Nat.lt_of_le_of_lt hsession hdbc.new)
    · rw [hsame]
      exact hkept.ended hstmt k hopen hended hlive

/-- A call on a handle of the entry. -/
theorem issued (hd : Dialing key w w₁) {call : SqlCall} {rc : SqlReturn}
    (hlive : call.onLive w₁.handles = true)
    (hcall : sqlSucceeded rc = true → call.keepsHandles = true) :
    Dialing key w (w₁.issued env call rc) := by
  have hsame : (w₁.issued env call rc).handles = w₁.handles := World.issued_handles_same hcall
  refine ⟨hd.used.concat hlive, hd.keys, hd.others, hd.connected, ?_, ?_, ?_, ?_, ?_, ?_⟩
  · rw [World.issued_length]
    exact Nat.le_succ_of_le hd.length
  all_goals rw [hsame]
  · exact hd.env
  · exact hd.dbc
  · exact hd.stmt
  · exact hd.session
  · exact hd.ended

/-- A field of the entry is set. -/
theorem setConn (hd : Dialing key w w₁) {f : ConnCacheEntry → ConnCacheEntry}
    (hf : ∀ c, (f c).connected = c.connected) : Dialing key w (w₁.setConn key f) := by
  refine ⟨hd.used, hd.keys, fun k hk => ?_, ?_, hd.length, hd.env, hd.dbc, hd.stmt, hd.session,
    hd.ended⟩
  · rw [World.setConn_of_ne hk]
    exact hd.others k hk
  · rw [World.setConn_self, hf]
    exact hd.connected

/-- An environment or a connection handle is allocated. -/
theorem allocated (hd : Dialing key w w₁) {handleType : HandleType} {inputHandle : Handle}
    {rc : SqlReturn} (htype : handleType ≠ .stmt)
    (hlive : (SqlCall.allocHandle handleType inputHandle (w₁.trace.length + 1)).onLive w₁.handles =
      true) (hrc : sqlSucceeded rc = true) :
    Dialing key w
      (w₁.issued env (.allocHandle handleType inputHandle (w₁.trace.length + 1)) rc) := by
  have hne : ∀ h ≤ w.trace.length, h ≠ w₁.trace.length + 1 := fun h hle =>
    Nat.ne_of_lt (Nat.lt_succ_of_le (Nat.le_trans hle hd.length))
  refine ⟨hd.used.concat hlive, hd.keys, hd.others, hd.connected, ?_, ?_, ?_, ?_, ?_, ?_⟩
  · rw [World.issued_length]
    exact Nat.le_succ_of_le hd.length
  all_goals rw [World.issued_handles_ok hrc]
  · intro h hle
    cases handleType with
    | env => exact (Remote.set_of_ne (hne h hle)).trans (hd.env h hle)
    | dbc => exact hd.env h hle
    | stmt => exact (htype rfl).elim
  · intro h hle
    cases handleType with
    | env => exact hd.dbc h hle
    | dbc => exact (Remote.set_of_ne (hne h hle)).trans (hd.dbc h hle)
    | stmt => exact (htype rfl).elim
  all_goals
    cases handleType with
    | env | dbc => first | exact hd.stmt | exact hd.session | exact hd.ended
    | stmt => exact (htype rfl).elim

/-- An attempt is given up without a cleanup. -/
theorem report (hd : Dialing key w w₁) (h : HandlesKept S w) :
    HandlesKept S (dropConnection env key w₁).next := by
  rw [dropConnection_eq, if_neg (by rw [hd.connected]; decide)]
  exact hd.kept h

end Dialing

theorem HasEnv.issued {n : Nat} (h : HasEnv n key w) {call : SqlCall} {rc : SqlReturn}
    (hcall : sqlSucceeded rc = true → call.keepsHandles = true) :
    HasEnv n key (w.issued env call rc) := by
  refine ⟨?_, h.new, ?_⟩
  · rw [World.issued_handles_same hcall]
    exact h.live
  · rw [World.issued_length]
    exact Nat.le_succ_of_le h.le

theorem HasDbc.issued {n : Nat} (h : HasDbc n key w) {call : SqlCall} {rc : SqlReturn}
    (hcall : sqlSucceeded rc = true → call.keepsHandles = true) :
    HasDbc n key (w.issued env call rc) := by
  refine ⟨?_, h.new, ?_⟩
  · rw [World.issued_handles_same hcall]
    exact h.live
  · rw [World.issued_length]
    exact Nat.le_succ_of_le h.le

/-- The first call of an attempt. -/
theorem allocEnv_handles {w₀ : World} (h : HandlesKept S w₀) :
    Proc.Triple (Dialing key w₀)
      (tbSqlAllocHandle env key .env SQL_NULL_HANDLE
        fun h => modifyConn key fun c => { c with henv := h })
      (fun henv w => henv = (w.conn key).henv ∧ Dialing key w₀ w ∧ HasEnv w₀.trace.length key w)
      fun _ => HandlesKept S := by
  intro w hd
  by_cases hrc : sqlSucceeded (w.nextRc env) = true
  · have hhandles :
        (w.called env (.allocHandle .env SQL_NULL_HANDLE (w.trace.length + 1))).handles =
        w.handles.effect (.allocHandle .env SQL_NULL_HANDLE (w.trace.length + 1)) :=
      World.issued_handles_ok hrc
    have hallocated : Dialing key w₀
        (w.called env (.allocHandle .env SQL_NULL_HANDLE (w.trace.length + 1))) :=
      hd.allocated (by decide) rfl hrc
    rw [tbSqlAllocHandle_conn_eq_ok.mpr ⟨hrc, rfl, rfl⟩]
    refine ⟨by simp, hallocated.setConn fun _ => rfl, ?_, ?_, ?_⟩ <;> rw [World.setConn_self]
    · change (w.called env _).handles.env (w.trace.length + 1) = true
      rw [hhandles]
      exact Remote.set_same ..
    · exact Nat.lt_succ_of_le hd.length
    · simp
  · have hrefused : Dialing key w₀ (w.called env (.allocHandle .env SQL_NULL_HANDLE
        SQL_NULL_HANDLE)) := hd.issued rfl fun hrc' => (hrc hrc').elim
    rw [tbSqlAllocHandle_refused hrc hd.connected]
    exact (hrefused.setConn (f := fun c => { c with henv := SQL_NULL_HANDLE }) fun _ => rfl).kept h

/-- The third call of an attempt. -/
theorem allocDbc_handles {w₀ : World} (h : HandlesKept S w₀) (henv : Handle) :
    Proc.Triple (fun w => henv = (w.conn key).henv ∧ Dialing key w₀ w ∧
        HasEnv w₀.trace.length key w)
      (tbSqlAllocHandle env key .dbc henv fun h => modifyConn key fun c => { c with hdbc := h })
      (fun _ w => Dialing key w₀ w ∧ HasEnv w₀.trace.length key w ∧ HasDbc w₀.trace.length key w)
      fun _ => HandlesKept S := by
  rintro w ⟨rfl, hd, henv⟩
  by_cases hrc : sqlSucceeded (w.nextRc env) = true
  · have hhandles : (w.called env (.allocHandle .dbc (w.conn key).henv
        (w.trace.length + 1))).handles =
        w.handles.effect (.allocHandle .dbc (w.conn key).henv (w.trace.length + 1)) :=
      World.issued_handles_ok hrc
    have hallocated : Dialing key w₀
        (w.called env (.allocHandle .dbc (w.conn key).henv (w.trace.length + 1))) :=
      hd.allocated (by decide) henv.live hrc
    rw [tbSqlAllocHandle_conn_eq_ok.mpr ⟨hrc, rfl, rfl⟩]
    refine ⟨hallocated.setConn fun _ => rfl, ⟨?_, ?_, ?_⟩, ?_, ?_, ?_⟩ <;> rw [World.setConn_self]
    · change (w.called env _).handles.env (w.conn key).henv = true
      rw [hhandles]
      exact henv.live
    · exact henv.new
    · rw [World.setConn_trace, World.called_length]
      exact Nat.le_succ_of_le henv.le
    · change (w.called env _).handles.dbc (w.trace.length + 1) = true
      rw [hhandles]
      exact Remote.set_same ..
    · exact Nat.lt_succ_of_le hd.length
    · simp
  · have hrefused : Dialing key w₀ (w.called env (.allocHandle .dbc (w.conn key).henv
        SQL_NULL_HANDLE)) := hd.issued henv.live fun hrc' => (hrc hrc').elim
    rw [tbSqlAllocHandle_refused hrc hd.connected]
    exact (hrefused.setConn (f := fun c => { c with hdbc := SQL_NULL_HANDLE }) fun _ => rfl).kept h

/-- **`connect_tb_server`** uses the handles that it allocates: each call of the attempt is made on
what the calls before it have returned, also when the attempt fails halfway. -/
theorem connectTbServer_handles (params : ConnParams) :
    Proc.Triple (fun w => (HandlesKept S w ∧ key ∈ w.keys) ∧ (w.conn key).connected = false)
      (connectTbServer env key params) (fun _ => HandlesKept S) fun _ => HandlesKept S := by
  rintro w₀ ⟨⟨h, hkey⟩, hno⟩
  have hsetEnv : ∀ henv, Proc.Triple (fun w => henv = (w.conn key).henv ∧ Dialing key w₀ w ∧
      HasEnv w₀.trace.length key w) (tbSqlSetEnvAttr env key SQL_ATTR_ODBC_VERSION SQL_OV_ODBC3)
      (fun _ w => henv = (w.conn key).henv ∧ Dialing key w₀ w ∧ HasEnv w₀.trace.length key w)
      fun _ => HandlesKept S := by
    rintro _ w ⟨rfl, hd, henv⟩
    have hissued := @Dialing.issued env _ _ _ hd (.setEnvAttr (w.conn key).henv
      SQL_ATTR_ODBC_VERSION SQL_OV_ODBC3) (w.nextRc env) henv.live fun _ => rfl
    rw [tbSqlSetEnvAttr, Proc.read_bind_run]
    by_cases hrc : sqlSucceeded (w.nextRc env) = true
    · rw [(tbCall_eq_ok (u := ())).mpr ⟨hrc, rfl⟩]
      exact ⟨rfl, hissued, henv.issued fun _ => rfl⟩
    · rw [tbCall_fails_run hrc]
      exact hissued.report h
  have hdial : Proc.Triple (fun w => Dialing key w₀ w ∧ HasEnv w₀.trace.length key w ∧
      HasDbc w₀.trace.length key w) (tbSqlDriverConnect env key (connectionString params))
      (fun _ w => Dialing key w₀ w ∧ HasEnv w₀.trace.length key w ∧ HasDbc w₀.trace.length key w)
      fun _ => HandlesKept S := by
    rintro w ⟨hd, henv, hdbc⟩
    have hissued := @Dialing.issued env _ _ _ hd (.driverConnect (w.conn key).hdbc
      (connectionString params)) (w.nextRc env) hdbc.live fun _ => rfl
    rw [tbSqlDriverConnect, Proc.read_bind_run, Proc.bind_of_ok (issue_run _)]
    by_cases hrc : sqlSucceeded (w.nextRc env) = true
    · rw [(checkReturn_eq_ok (u := ())).mpr ⟨hrc, rfl⟩]
      exact ⟨hissued, henv.issued fun _ => rfl, hdbc.issued fun _ => rfl⟩
    · rw [checkReturn_fails_run hrc]
      exact hissued.report h
  have hmark : Proc.Triple (fun w => Dialing key w₀ w ∧ HasEnv w₀.trace.length key w ∧
      HasDbc w₀.trace.length key w) (modifyConn key fun c => { c with connected := true })
      (fun _ => HandlesKept S) fun _ => HandlesKept S :=
    .modify fun _ hw => hw.1.made h hkey hw.2.1 hw.2.2
  exact (allocEnv_handles h).bind (fun henv => (hsetEnv henv).bind fun _ =>
    (allocDbc_handles h henv).bind fun _ => hdial.bind fun _ => hmark) w₀ (h.dialing hno)

end

end TiberoFdw
