import TiberoFdw.FailStop
import TiberoFdw.Settled

/-!
# Connections between transactions

With `keep_connections` off, a connection lasts as long as the remote transaction on it:

* in every run, whatever fails in it, a connected entry without a remote transaction has the option
  on (`IdleKept`);
* when the callback of a commit or an abort returns, no other entry is connected
  (`tbfdwXactCallback_atRest`).

Inside of `get_tb_statement` and at the end of a remote transaction this does not hold of the entry
that is worked on; an error disconnects it. The other entries stay as they are, up to the mark of
an invalidation.
-/

namespace TiberoFdw

/-- A connection without a remote transaction is one that is kept. -/
def ConnCacheEntry.IdleKept (conn : ConnCacheEntry) : Prop :=
  conn.connected = true → conn.beginRemoteXact = false → conn.keepConnections = true

/-- The connection, if there is one, is kept and has no remote transaction. -/
def ConnCacheEntry.AtRest (conn : ConnCacheEntry) : Prop :=
  conn.connected = true → conn.beginRemoteXact = false ∧ conn.keepConnections = true

/-- The entries of the cache other than this one. -/
def OthersIdleKept (key : ConnCacheKey) (w : World) : Prop :=
  ∀ k ∈ w.keys, k ≠ key → (w.conn k).IdleKept

/-- Every entry that is connected without a remote transaction is kept. -/
def IdleKept (w : World) : Prop := ∀ k ∈ w.keys, (w.conn k).IdleKept

section

variable {pg : Postgres} {env : Environment} {key : ConnCacheKey} {w w' : World}
  {conn conn' : ConnCacheEntry}

namespace ConnCacheEntry

theorem IdleKept.of_disconnected (h : conn.connected = false) : conn.IdleKept := by
  intro hconn
  rw [h] at hconn
  cases hconn

theorem IdleKept.of_begun (h : conn.beginRemoteXact = true) : conn.IdleKept := by
  intro _ hidle
  rw [h] at hidle
  cases hidle

theorem AtRest.idleKept (h : conn.AtRest) : conn.IdleKept := fun hconn _ => (h hconn).2

theorem AtRest.of_disconnected (h : conn.connected = false) : conn.AtRest := by
  intro hconn
  rw [h] at hconn
  cases hconn

/-- A mark of an invalidation does not matter. -/
theorem IdleKept.of_same (h : conn.IdleKept) (hsame : SameButInvalidated conn conn') :
    conn'.IdleKept := by
  have hconn := congrArg connected hsame
  have hbegin := congrArg ConnCacheEntry.beginRemoteXact hsame
  have hkeep := congrArg keepConnections hsame
  dsimp only at hconn hbegin hkeep
  rw [IdleKept, ← hconn, ← hbegin, ← hkeep]
  exact h

theorem AtRest.of_same (h : conn.AtRest) (hsame : SameButInvalidated conn conn') :
    conn'.AtRest := by
  have hconn := congrArg connected hsame
  have hbegin := congrArg ConnCacheEntry.beginRemoteXact hsame
  have hkeep := congrArg keepConnections hsame
  dsimp only at hconn hbegin hkeep
  rw [AtRest, ← hconn, ← hbegin, ← hkeep]
  exact h

theorem IdleKept.invalidate (h : conn.IdleKept) (cacheid : CacheId) (hashvalue : Nat) :
    (invalidateEntry cacheid hashvalue conn).IdleKept := by
  rw [invalidateEntry]
  split_ifs
  · exact h
  · exact h

end ConnCacheEntry

theorem IdleKept.others (h : IdleKept w) : OthersIdleKept key w := fun k hk _ => h k hk

theorem OthersIdleKept.idleKept (h : OthersIdleKept key w) (hkey : (w.conn key).IdleKept) :
    IdleKept w := by
  intro k hk
  by_cases hne : k = key
  · rw [hne]
    exact hkey
  · exact h k hk hne

/-- What a run on one entry leaves, when that entry is as it should be. -/
theorem IdleKept.of_confined (h : IdleKept w) (hconfined : Confined key w w')
    (hkey : (w'.conn key).IdleKept) : IdleKept w' := by
  have hothers : OthersIdleKept key w' := by
    intro k hk hne
    rw [hconfined.keys] at hk
    exact (h k hk).of_same (hconfined.others k hne)
  exact hothers.idleKept hkey

theorem IdleKept.invalidated (h : IdleKept w) (cacheid : CacheId) (hashvalue : Nat) :
    IdleKept (w.invalidated cacheid hashvalue) := by
  intro k hk
  change (if k ∈ w.keys then invalidateEntry cacheid hashvalue (w.conn k)
    else w.conn k).IdleKept
  split_ifs
  · exact (h k hk).invalidate cacheid hashvalue
  · exact h k hk

/-! ## Statements -/

variable (env key) in
/-- The functions on an entry leave the others as they are. -/
theorem snapshotRules_othersIdleKept : SnapshotRules env key (OthersIdleKept key) := by
  have hsetConn : ∀ w f, OthersIdleKept key w → OthersIdleKept key (w.setConn key f) := by
    intro w f h k hk hne
    rw [World.setConn_of_ne hne]
    exact h k hk hne
  exact
    { issued := fun _ _ _ _ h => h
      setConn := fun w f _ => hsetConn w f
      lookup := fun _ _ h => h
      invalidated := by
        intro w cacheid hashvalue h k hk hne
        change (if k ∈ w.keys then invalidateEntry cacheid hashvalue (w.conn k)
          else w.conn k).IdleKept
        split_ifs
        · exact (h k hk hne).invalidate cacheid hashvalue
        · exact h k hk hne
      setTsn := fun w _ => hsetConn w _ }

theorem OthersIdleKept.entered (h : OthersIdleKept key w) (env : Environment) :
    OthersIdleKept key (w.entered env key) := by
  intro k hk hne
  have hmem : k ∈ w.keys := (World.mem_entered_keys.mp hk).resolve_left hne
  have hsame : (w.entered env key).conn k = w.conn k := by
    rw [World.entered]
    split_ifs
    · rfl
    · exact World.setConn_of_ne hne fun c => { c with connected := false }
  rw [hsame]
  exact h k hmem hne

/-- A statement is handed out in a remote transaction. -/
theorem getTbStatement_begun {user : UserMapping} {tbStmt stmt : TbStatement} {useFbQuery : Bool}
    (h : getTbStatement pg env user tbStmt useFbQuery w = .ok stmt w') :
    (w'.conn user.umid).beginRemoteXact = true := by
  rcases getTbStatement_ok h with htry | ⟨err, w₁, -, -, hretry⟩
  · obtain ⟨w₁, -, hopened⟩ := tryTbStatement_ok htry
    exact hopened.beginRemoteXact
  · obtain ⟨w₂, -, hopened⟩ := retryTbStatement_ok hretry
    exact hopened.beginRemoteXact

theorem getTbStatement_idleKept (user : UserMapping) (tbStmt : TbStatement) (useFbQuery : Bool) :
    Proc.Keeps IdleKept (getTbStatement pg env user tbStmt useFbQuery) := by
  refine .of_next fun w h => ?_
  have hothers : OthersIdleKept user.umid (getTbStatement pg env user tbStmt useFbQuery w).next :=
    (snapshotRules_othersIdleKept env user.umid).getTbStatement_next (h.others.entered env) tbStmt
      useFbQuery
  refine hothers.idleKept ?_
  rcases hrun : getTbStatement pg env user tbStmt useFbQuery w with ⟨stmt, w'⟩ | ⟨e, w'⟩
  · exact .of_begun (getTbStatement_begun hrun)
  · exact .of_disconnected (getTbStatement_lost hrun)

/-! ## The end of a transaction -/

/-- The end of a remote transaction leaves a connection only if it is kept. -/
theorem endRemoteXact_atRest {completionType : CompletionType} {u : Unit}
    (h : endRemoteXact env key completionType w = .ok u w') : (w'.conn key).AtRest := by
  rcases hconn : (w.conn key).connected with _ | _
  · rw [endRemoteXact, Proc.read_bind_run, hconn] at h
    cases h
    exact .of_disconnected hconn
  · have hbegin := (endRemoteXact_ok hconn h).beginRemoteXact
    rw [endRemoteXact, Proc.read_bind_run, hconn, Proc.when_true] at h
    obtain ⟨_, w₁, -, h⟩ := Proc.bind_eq_ok.mp h
    rw [Proc.read_bind_run] at h
    rcases hclose : (w₁.conn key).invalidated || !(w₁.conn key).keepConnections with _ | _
    · rw [hclose] at h
      cases h
      rw [Bool.or_eq_false_iff, Bool.not_eq_false'] at hclose
      exact fun _ => ⟨hbegin, hclose.2⟩
    · rw [hclose, Proc.when_true] at h
      rcases disconnectTbServer_ok h with ⟨hlost, rfl⟩ | ⟨-, rfl, -⟩
      · exact .of_disconnected hlost
      · exact .of_disconnected World.disconnected_connected

/-- The events that end the remote transactions. -/
def XactEvent.ends : XactEvent → Bool
  | .preCommit | .parallelPreCommit | .abort | .parallelAbort => true
  | _ => false

theorem endRemoteXact_idleKept (completionType : CompletionType) :
    Proc.Keeps IdleKept (endRemoteXact env key completionType) := by
  refine .of_next fun w h => ?_
  have hconfines : Confines key (endRemoteXact env key completionType) w :=
    endRemoteXact_confines completionType
  rcases hrun : endRemoteXact env key completionType w with ⟨u, w'⟩ | ⟨e, w'⟩
  · exact h.of_confined (hconfines.apply_ok hrun) (endRemoteXact_atRest hrun).idleKept
  · obtain ⟨hconfined, hlost⟩ := hconfines.apply_raise hrun
    exact h.of_confined hconfined (.of_disconnected hlost)

/-- In error recursion trouble, the connection of the entry is forgotten. -/
theorem IdleKept.forget (h : IdleKept w) :
    IdleKept (w.setConn key fun c => { c with connected := false }) := by
  refine h.of_confined (Confined.setConn fun hconn => by cases hconn) (.of_disconnected ?_)
  rw [World.setConn_self]

theorem xactCallbackEntry_idleKept (event : XactEvent) :
    Proc.Keeps IdleKept (xactCallbackEntry env event key) := by
  refine .read_bind fun w => .when ?_
  cases event with
  | preCommit | parallelPreCommit => exact endRemoteXact_idleKept .commit
  | prePrepare | commit | parallelCommit | prepare => exact .pure ()
  | abort | parallelAbort =>
    dsimp only
    split_ifs
    · exact .modify fun w h => h.forget
    · exact endRemoteXact_idleKept .rollback

/-- The callback on one entry, at the end of a transaction. -/
theorem xactCallbackEntry_atRest {event : XactEvent} (hends : event.ends = true) {u : Unit}
    (hidle : (w.conn key).IdleKept) (h : xactCallbackEntry env event key w = .ok u w') :
    (w'.conn key).AtRest ∧ ∀ k, (w.conn k).AtRest → (w'.conn k).AtRest := by
  -- the other entries stay as they are
  have hsplit : Confined key w w' → (w'.conn key).AtRest →
      (w'.conn key).AtRest ∧ ∀ k, (w.conn k).AtRest → (w'.conn k).AtRest := by
    intro hconfined hrest
    refine ⟨hrest, fun k hk => ?_⟩
    by_cases hne : k = key
    · rw [hne]
      exact hrest
    · exact hk.of_same (hconfined.others k hne)
  have hend : ∀ completionType, endRemoteXact env key completionType w = .ok u w' →
      (w'.conn key).AtRest ∧ ∀ k, (w.conn k).AtRest → (w'.conn k).AtRest :=
    fun completionType hrun =>
      hsplit ((endRemoteXact_confines completionType).apply_ok hrun) (endRemoteXact_atRest hrun)
  rw [xactCallbackEntry, Proc.read_bind_run] at h
  rcases hbegin : (w.conn key).beginRemoteXact with _ | _
  · rw [hbegin] at h
    cases h
    exact ⟨fun hconn => ⟨hbegin, hidle hconn hbegin⟩, fun _ hk => hk⟩
  · rw [hbegin, Proc.when_true] at h
    cases event with
    | preCommit | parallelPreCommit => exact hend .commit h
    | prePrepare | commit | parallelCommit | prepare => cases hends
    | abort | parallelAbort =>
      dsimp only at h
      split_ifs at h
      · cases h
        refine hsplit (Confined.setConn fun hconn => by cases hconn) (.of_disconnected ?_)
        rw [World.setConn_self]
      · exact hend .rollback h

/-- The loop over the entries. -/
theorem xactCallbackLoop_atRest {event : XactEvent} (hends : event.ends = true) {u : Unit}
    {keys : List ConnCacheKey} (hkeys : ∀ k ∈ keys, k ∈ w.keys) (hidle : IdleKept w)
    (h : Proc.forEach keys (xactCallbackEntry env event) w = .ok u w') :
    (∀ k ∈ keys, (w'.conn k).AtRest) ∧ ∀ k, (w.conn k).AtRest → (w'.conn k).AtRest := by
  induction keys generalizing w with
  | nil =>
    cases h
    exact ⟨List.forall_mem_nil _, fun _ hk => hk⟩
  | cons key rest ih =>
    obtain ⟨_, w₁, hentry, hrest⟩ := Proc.bind_eq_ok.mp h
    obtain ⟨hkey, hkeys'⟩ := List.forall_mem_cons.mp hkeys
    obtain ⟨hatRest, hkept⟩ := xactCallbackEntry_atRest hends (hidle key hkey) hentry
    have hidle₁ : IdleKept w₁ := (xactCallbackEntry_idleKept event).apply_ok hidle hentry
    have hsettled := (xactCallbackEntry_settled event).apply_ok (Settled.refl w) hentry
    obtain ⟨hall, hkept'⟩ := ih (fun k hk => hsettled.keys ▸ hkeys' k hk) hidle₁ hrest
    exact ⟨List.forall_mem_cons.mpr ⟨hkept' key hatRest, hall⟩, fun k hk => hkept' k (hkept k hk)⟩

theorem tbfdwXactCallback_idleKept (event : XactEvent) :
    Proc.Keeps IdleKept (tbfdwXactCallback env event) := by
  refine .read_bind fun w => .when (.bind (.modify fun w h => h) fun _ => ?_)
  refine .bind (.forEach fun key _ => xactCallbackEntry_idleKept event) fun _ => ?_
  exact .bind (.modify fun w h => h) fun _ => .modify fun w h => h

/-- **After a commit or an abort** whose callback returns, every connection that is left is kept,
and has no remote transaction. -/
theorem tbfdwXactCallback_atRest {event : XactEvent} (hends : event.ends = true) {u : Unit}
    (hgot : w.xactGotConnection = true) (hidle : IdleKept w)
    (h : tbfdwXactCallback env event w = .ok u w') : ∀ k ∈ w'.keys, (w'.conn k).AtRest := by
  have hkeys := ((tbfdwXactCallback_settled event).apply_ok (Settled.refl w) h).keys
  rw [tbfdwXactCallback, Proc.read_bind_run, hgot, Proc.when_true, setSleepOnSigOn,
    Proc.modify_bind_run] at h
  obtain ⟨_, w₁, hloop, h⟩ := Proc.bind_eq_ok.mp h
  have hidle' : IdleKept { w with useSleepOnSig := true } := hidle
  obtain ⟨hall, -⟩ := xactCallbackLoop_atRest hends (fun k hk => hk) hidle' hloop
  cases h
  rw [hkeys]
  exact hall

/-! ## Runs -/

variable (pg env) in
theorem callbackRules_idleKept : CallbackRules pg env IdleKept fun _ _ => IdleKept where
  inv _ _ _ h := h
  issued _ _ _ _ _ _ h := h
  report hstmt key := by
    intro w h
    obtain ⟨w', hrun, hconfined, hlost⟩ := dropConnection_run env w key
    rw [hrun]
    exact h.of_confined hconfined (.of_disconnected hlost)
  sleepUsing _ _ _ _ h := h
  sleep _ _ h := h
  drop tbStmt := by
    refine .of_next fun w h => ?_
    have hconfines : Confines tbStmt.conn (tbCall env tbStmt.conn (.freeStmt tbStmt.hstmt .drop))
      w := tbCall_confines rfl
    change IdleKept (tbCall env tbStmt.conn (.freeStmt tbStmt.hstmt .drop) w).next
    rcases hrun : tbCall env tbStmt.conn (.freeStmt tbStmt.hstmt .drop) w with ⟨u, w'⟩ | ⟨e, w'⟩
    · obtain ⟨-, rfl⟩ := tbCall_eq_ok.mp hrun
      exact h
    · obtain ⟨hconfined, hlost⟩ := hconfines.apply_raise hrun
      exact h.of_confined hconfined (.of_disconnected hlost)
  trouble _ _ h := h
  getTbStatement := getTbStatement_idleKept
  getForeignServer serverid := by
    refine .read_bind fun w => .bind (.modify fun w h => h) fun _ => ?_
    refine .bind (.forEach fun d _ => ?_) fun _ => .pure _
    exact fun w h => IdleKept.invalidated h d.1 d.2
  xactCallback := tbfdwXactCallback_idleKept
  invalCallback cacheid hashvalue := fun w h => IdleKept.invalidated h cacheid hashvalue

theorem BackendOp.step_idleKept (op : BackendOp) (b : Backend) :
    Proc.Keeps IdleKept (op.step pg env b) := by
  cases op with
  | startTransaction | startStatement => exact fun w h => h
  | _ => exact (callbackRules_idleKept pg env).keeps_step rfl b

/-- With `keep_connections` off, a connection lasts as long as its remote transaction. -/
structure KeepsOnlyKept (env : Environment) (w : World) : Prop where
  idle : ∀ key ∈ w.keys, (w.conn key).connected = true →
    (w.conn key).beginRemoteXact = false → (w.conn key).keepConnections = true
  afterEnd : ∀ event : XactEvent, event.ends = true → w.xactGotConnection = true →
    ∀ w', tbfdwXactCallback env event w = .ok () w' →
      ∀ key ∈ w'.keys, (w'.conn key).connected = true →
        (w'.conn key).beginRemoteXact = false ∧ (w'.conn key).keepConnections = true

/-- **How long a connection lasts**: in every run from an empty cache, whatever fails or is
invalidated in it, a connection without a remote transaction is one that is kept. After a commit
or an abort of a transaction that has asked for a connection, these are all that is left. -/
theorem keepsOnlyKept_of_run {ops : List BackendOp} {w₀ : World} (hkeys : w₀.keys = []) :
    KeepsOnlyKept env (runBackend pg env ops Backend.start w₀).next := by
  obtain ⟨b', w', hrun⟩ := runBackend_returns pg env ops Backend.start w₀
  have hstart : IdleKept w₀ := by
    rw [IdleKept, hkeys]
    exact List.forall_mem_nil _
  have h : IdleKept w' := by
    refine Proc.fold_ok (I := fun _ => IdleKept) ?_
      (.of_forall (p := fun _ => True) (fun _ _ => trivial) _ _) hstart hrun
    intro op b w b' w' _ h hstep
    exact (BackendOp.step_idleKept op b).apply_ok h hstep
  rw [hrun]
  exact ⟨h, fun event hends hgot w'' hcallback => tbfdwXactCallback_atRest hends hgot h hcallback⟩

end

/-- Servers with `keep_connections` off. -/
def Environment.notKeeping : Environment :=
  { Environment.delivering twoRows with
    foreignServer := fun _ serverid => ⟨serverid, [⟨"keep_connections", "false".toList⟩]⟩ }

/-- The connection of a scan is there up to the commit, and not after it. -/
theorem notKeeping_closed :
    ∃ b w w', runBackend .small .notKeeping (twoMappingsScan [.iterate 0]) Backend.start
        World.started = .ok b w ∧ w.keys = [2, 1] ∧
      (w.conn 1).connected = true ∧ tbfdwXactCallback .notKeeping .preCommit w = .ok () w' ∧
      (w'.conn 1).connected = false ∧ KeepsOnlyKept .notKeeping w := by
  obtain ⟨b, w, hrun, htest⟩ : ∃ b w, runBackend .small .notKeeping (twoMappingsScan [.iterate 0])
      Backend.start World.started = .ok b w ∧ (w.keys == [2, 1] && (w.conn 1).connected &&
        (tbfdwXactCallback .notKeeping .preCommit w).okAnd
          fun _ w' => !(w'.conn 1).connected) = true :=
    Outcome.exists_of_okAnd (by decide +kernel)
  simp only [Bool.and_eq_true, beq_iff_eq] at htest
  obtain ⟨⟨hkeys, hconn⟩, hcommit⟩ := htest
  obtain ⟨_, w', hcallback, hclosed⟩ := Outcome.exists_of_okAnd hcommit
  rw [Bool.not_eq_true'] at hclosed
  have hkept : KeepsOnlyKept .notKeeping (runBackend .small .notKeeping
      (twoMappingsScan [.iterate 0]) Backend.start World.started).next := keepsOnlyKept_of_run rfl
  rw [hrun] at hkept
  exact ⟨b, w, w', hrun, hkeys, hconn, hcallback, hclosed, hkept⟩

end TiberoFdw
