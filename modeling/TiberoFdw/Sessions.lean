import TiberoFdw.Calls

/-!
# The sessions of the cache

Every cache entry that has a connection owns a session of its own that is open.
The invariant is `Consistent`. A function works on one entry, and there are two
ways in which it can change the sessions:

* it stays with the session that the entry has (`Confined`), and when it raises
  an error the entry has lost it;
* it gives the entry a new one (`Replaced`), and possibly opens a statement on
  it (`Opened`).

Each of them keeps the invariant, and so do all the functions of `connection.c`
on both exits: it holds in every world that the module can be in (`Reachable`).
-/

namespace TiberoFdw

/-! ## The invariant -/

/-- The entry is in the cache and has a connection. -/
def World.Live (w : World) (key : ConnCacheKey) : Prop :=
  key ∈ w.keys ∧ (w.conn key).connected = true

/-- The sessions of the live entries are open, and no two entries share one. A
session in a remote transaction is not in autocommit mode. -/
structure Consistent (w : World) : Prop where
  nodup : w.keys.Nodup
  isOpen : ∀ k, w.Live k → w.remote.isOpen (w.conn k).hdbc = true
  fresh : ∀ k, w.Live k → w.trace.length ≥ (w.conn k).hdbc
  autocommit : ∀ k, w.Live k → (w.conn k).beginRemoteXact = true →
    w.remote.autocommit (w.conn k).hdbc = false
  distinct : ∀ k k', w.Live k → w.Live k' → (w.conn k).hdbc = (w.conn k').hdbc → k = k'

/-- A call that opens or closes no session and executes no prepared statement. -/
def SqlCall.quiet : SqlCall → Bool
  | .driverConnect _ _ => false
  | .disconnect _ => false
  | .execute _ _ => false
  | _ => true

/-- What a quiet call leaves alone. A session never goes back to autocommit mode. -/
theorem Remote.effect_quiet {call : SqlCall} (hq : call.quiet = true) (r : Remote) :
    (r.effect call).isOpen = r.isOpen ∧ (r.effect call).executed = r.executed ∧
      ∀ h, r.autocommit h = false → (r.effect call).autocommit h = false := by
  cases call with
  | driverConnect => cases hq
  | disconnect => cases hq
  | execute => cases hq
  | allocHandle handleType =>
    cases handleType <;> exact ⟨rfl, rfl, fun h hoff => hoff⟩
  | endTran hdbc completionType =>
    cases completionType <;> exact ⟨rfl, rfl, fun h hoff => hoff⟩
  | setConnectAttr hdbc attr value =>
    rw [Remote.effect]
    split_ifs
    · refine ⟨rfl, rfl, fun h hoff => ?_⟩
      by_cases hh : h = hdbc
      · simp [hh]
      · simpa [Remote.set_of_ne hh] using hoff
    · exact ⟨rfl, rfl, fun h hoff => hoff⟩
  | _ => exact ⟨rfl, rfl, fun h hoff => hoff⟩

theorem Remote.step_quiet {call : SqlCall} (hq : call.quiet = true) (r : Remote) (rc : SqlReturn) :
    (r.step ⟨call, rc⟩).isOpen = r.isOpen ∧ (r.step ⟨call, rc⟩).executed = r.executed ∧
      ∀ h, r.autocommit h = false → (r.step ⟨call, rc⟩).autocommit h = false := by
  rw [Remote.step]
  split_ifs
  · exact Remote.effect_quiet hq r
  · exact ⟨rfl, rfl, fun h hoff => hoff⟩

/-! ## Staying with the session of an entry -/

/-- Only the entry of the key and its own session were touched, and the entry has
no session that it did not have before. -/
structure Confined (key : ConnCacheKey) (w w' : World) : Prop where
  keys : w'.keys = w.keys
  xactGotConnection : w'.xactGotConnection = w.xactGotConnection
  others : ∀ k, k ≠ key → SameButInvalidated (w.conn k) (w'.conn k)
  entry : (w'.conn key).connected = true →
    (w.conn key).connected = true ∧ (w'.conn key).hdbc = (w.conn key).hdbc
  trace : w.trace.length ≤ w'.trace.length
  sessions : ∀ h, ((w.conn key).connected = true → h ≠ (w.conn key).hdbc) →
    w'.remote.isOpen h = w.remote.isOpen h ∧
      (w.remote.autocommit h = false → w'.remote.autocommit h = false)
  executed : w'.remote.executed = w.remote.executed

section

variable {env : Environment} {w w' : World} {key : ConnCacheKey}

namespace Confined

theorem refl (key : ConnCacheKey) (w : World) : Confined key w w :=
  ⟨rfl, rfl, fun k _ => SameButInvalidated.refl (w.conn k), fun h => ⟨h, rfl⟩, Nat.le_refl _,
    fun _ _ => ⟨rfl, id⟩, rfl⟩

theorem trans {w₁ w₂ w₃ : World} (h : Confined key w₁ w₂) (h' : Confined key w₂ w₃) :
    Confined key w₁ w₃ := by
  refine ⟨h'.keys.trans h.keys, h'.xactGotConnection.trans h.xactGotConnection,
    fun k hk => (h.others k hk).trans (h'.others k hk), ?_, Nat.le_trans h.trace h'.trace, ?_,
    h'.executed.trans h.executed⟩
  · intro hconn
    obtain ⟨hconn₂, hhdbc₂⟩ := h'.entry hconn
    obtain ⟨hconn₁, hhdbc₁⟩ := h.entry hconn₂
    exact ⟨hconn₁, hhdbc₂.trans hhdbc₁⟩
  · intro hdbc hne
    obtain ⟨hopen, hauto⟩ := h.sessions hdbc hne
    obtain ⟨hopen', hauto'⟩ := h'.sessions hdbc fun hconn₂ => by
      obtain ⟨hconn₁, hhdbc₁⟩ := h.entry hconn₂
      rw [hhdbc₁]
      exact hne hconn₁
    exact ⟨hopen'.trans hopen, fun hoff => hauto' (hauto hoff)⟩

theorem issued {call : SqlCall} (hq : call.quiet = true) (rc : SqlReturn) :
    Confined key w (w.issued env call rc) := by
  refine ⟨by simp, by simp, fun k _ => SameButInvalidated.refl _, fun h => ⟨h, rfl⟩, by simp,
    ?_, ?_⟩
  · intro h _
    rw [World.issued_remote]
    exact ⟨congrFun (Remote.step_quiet hq w.remote rc).1 h,
      (Remote.step_quiet hq w.remote rc).2.2 h⟩
  · rw [World.issued_remote]
    exact (Remote.step_quiet hq w.remote rc).2.1

/-- A call that fails. -/
theorem issued_failed {rc : SqlReturn} (hrc : ¬sqlSucceeded rc = true) (call : SqlCall) :
    Confined key w (w.issued env call rc) := by
  have hremote : (w.issued env call rc).remote = w.remote := by
    rw [World.issued_remote, Remote.step, if_neg hrc]
  exact ⟨rfl, rfl, fun k _ => SameButInvalidated.refl _, fun h => ⟨h, rfl⟩, by simp,
    fun h _ => by simp [hremote], by rw [hremote]⟩

/-- Closing the session of the entry. -/
theorem issued_disconnect (hconn : (w.conn key).connected = true) (rc : SqlReturn) :
    Confined key w (w.issued env (.disconnect (w.conn key).hdbc) rc) := by
  have hstep : ∀ r : Remote, ∀ h, h ≠ (w.conn key).hdbc →
      (r.step ⟨.disconnect (w.conn key).hdbc, rc⟩).isOpen h = r.isOpen h ∧
        (r.step ⟨.disconnect (w.conn key).hdbc, rc⟩).autocommit h = r.autocommit h := by
    intro r h hne
    rw [Remote.step]
    split_ifs
    · exact ⟨Remote.set_of_ne hne, rfl⟩
    · exact ⟨rfl, rfl⟩
  refine ⟨by simp, by simp, fun k _ => SameButInvalidated.refl _, fun h => ⟨h, rfl⟩, by simp,
    ?_, ?_⟩
  · intro h hne
    rw [World.issued_remote]
    obtain ⟨hopen, hauto⟩ := hstep w.remote h (hne hconn)
    exact ⟨hopen, fun hoff => hauto.trans hoff⟩
  · rw [World.issued_remote, Remote.step]
    split_ifs <;> rfl

theorem setConn {f : ConnCacheEntry → ConnCacheEntry}
    (hf : (f (w.conn key)).connected = true →
      (w.conn key).connected = true ∧ (f (w.conn key)).hdbc = (w.conn key).hdbc) :
    Confined key w (w.setConn key f) := by
  refine ⟨by simp, by simp, ?_, ?_, by simp, fun _ _ => ⟨rfl, id⟩, rfl⟩
  · intro k hk
    rw [World.setConn_of_ne hk]
    exact SameButInvalidated.refl (w.conn k)
  · rw [World.setConn_self]
    exact hf

theorem of_delivered (h : Delivered w w') : Confined key w w' := by
  have hremote : w'.remote = w.remote := by rw [World.remote, World.remote, h.trace]
  refine ⟨h.keys, h.xactGotConnection, fun k _ => h.conn k, ?_, by simp [h.trace],
    fun _ _ => by simp [hremote], by rw [hremote]⟩
  intro hconn
  exact ⟨(h.conn key).connected ▸ hconn, (h.conn key).hdbc⟩

end Confined

/-- When the entry has lost its session, nothing is left to be checked for it. -/
theorem Consistent.of_confined (hw : Consistent w) (hkey : key ∈ w.keys) (h : Confined key w w')
    (hlost : (w'.conn key).connected = false) : Consistent w' := by
  have hlive : ∀ k, w'.Live k → k ≠ key ∧ w.Live k ∧ (w'.conn k).hdbc = (w.conn k).hdbc ∧
      (w'.conn k).beginRemoteXact = (w.conn k).beginRemoteXact := by
    intro k hk
    have hne : k ≠ key := by
      rintro rfl
      rw [hk.2] at hlost
      cases hlost
    have hsame := h.others k hne
    exact ⟨hne, ⟨h.keys ▸ hk.1, hsame.connected ▸ hk.2⟩, hsame.hdbc, hsame.beginRemoteXact⟩
  have hsession : ∀ k, w'.Live k → ((w.conn key).connected = true →
      (w.conn k).hdbc ≠ (w.conn key).hdbc) := by
    intro k hk hconn heq
    obtain ⟨hne, hk', -⟩ := hlive k hk
    exact hne (hw.distinct k key hk' ⟨hkey, hconn⟩ heq)
  refine ⟨h.keys ▸ hw.nodup, ?_, ?_, ?_, ?_⟩
  · intro k hk
    obtain ⟨-, hk', hhdbc, -⟩ := hlive k hk
    rw [hhdbc, (h.sessions _ (hsession k hk)).1]
    exact hw.isOpen k hk'
  · intro k hk
    obtain ⟨-, hk', hhdbc, -⟩ := hlive k hk
    rw [hhdbc]
    exact Nat.le_trans (hw.fresh k hk') h.trace
  · intro k hk hbegin
    obtain ⟨-, hk', hhdbc, hbegin'⟩ := hlive k hk
    rw [hhdbc]
    exact (h.sessions _ (hsession k hk)).2 (hw.autocommit k hk' (hbegin' ▸ hbegin))
  · intro k k' hk hk' heq
    obtain ⟨-, hlk, hhdbc, -⟩ := hlive k hk
    obtain ⟨-, hlk', hhdbc', -⟩ := hlive k' hk'
    rw [hhdbc, hhdbc'] at heq
    exact hw.distinct k k' hlk hlk' heq

/-! ## Procedures that stay with the session of an entry -/

/-- The run is confined to the entry, and an error leaves it without a session. -/
def Confines {α : Type} (key : ConnCacheKey) (m : Fdw α) (w : World) : Prop :=
  match m w with
  | .ok _ w' => Confined key w w'
  | .raise _ w' => Confined key w w' ∧ (w'.conn key).connected = false

namespace Confines

variable {α β : Type}

theorem apply_ok {m : Fdw α} {a : α} (h : Confines key m w) (hrun : m w = .ok a w') :
    Confined key w w' := by
  rw [Confines, hrun] at h
  exact h

theorem apply_raise {m : Fdw α} {e : PgError} (h : Confines key m w) (hrun : m w = .raise e w') :
    Confined key w w' ∧ (w'.conn key).connected = false := by
  rw [Confines, hrun] at h
  exact h

theorem pure (a : α) : Confines key (Pure.pure a : Fdw α) w := Confined.refl key w

theorem modify {f : World → World} (h : Confined key w (f w)) :
    Confines key (Proc.modify f) w := h

theorem read_bind {f : World → Fdw β} (h : Confines key (f w) w) :
    Confines key (Proc.read >>= f) w := h

theorem bind {m : Fdw α} {f : α → Fdw β} (hm : Confines key m w)
    (hf : ∀ a w₁, m w = .ok a w₁ → Confines key (f a) w₁) : Confines key (m >>= f) w := by
  rcases hrun : m w with ⟨a, w₁⟩ | ⟨e, w₁⟩
  · have h₁ := hm.apply_ok hrun
    have h₂ := hf a w₁ hrun
    rw [Confines, Proc.bind_of_ok hrun]
    rcases hrun₂ : f a w₁ with ⟨b, w₂⟩ | ⟨e, w₂⟩
    · exact h₁.trans (h₂.apply_ok hrun₂)
    · exact ⟨h₁.trans (h₂.apply_raise hrun₂).1, (h₂.apply_raise hrun₂).2⟩
  · rw [Confines, Proc.bind_of_raise hrun]
    exact hm.apply_raise hrun

/-- A sequence that ends with an error, in its first part or after it. -/
theorem raise_bind {m : Fdw α} {f : α → Fdw β} {e : PgError} (hm : Confines key m w)
    (h : (m >>= f) w = .raise e w') :
    (Confined key w w' ∧ (w'.conn key).connected = false) ∨
      ∃ a w₁, m w = .ok a w₁ ∧ Confined key w w₁ ∧ f a w₁ = .raise e w' := by
  rcases Proc.bind_eq_raise.mp h with hraise | ⟨a, w₁, hok, hraise⟩
  · exact .inl (hm.apply_raise hraise)
  · exact .inr ⟨a, w₁, hok, hm.apply_ok hok, hraise⟩

theorem when {condition : Bool} {m : Fdw Unit} (hm : condition = true → Confines key m w) :
    Confines key (Proc.when condition m) w := by
  cases condition
  · exact Confined.refl key w
  · exact hm rfl

end Confines

variable (env w key) in
/-- The cleanup of `TbFdwReportError`. -/
theorem dropConnection_run : ∃ w', dropConnection env key w = .ok () w' ∧ Confined key w w' ∧
    (w'.conn key).connected = false := by
  rw [dropConnection, Proc.read_bind_run]
  rcases hconn : (w.conn key).connected with _ | _
  · exact ⟨w, rfl, Confined.refl key w, hconn⟩
  · refine ⟨_, rfl, ?_, by simp⟩
    exact ((Confined.issued_disconnect hconn _).trans ((Confined.issued rfl _).trans
      (Confined.issued rfl _))).trans
        (Confined.setConn (f := fun c => { c with beginRemoteXact := false, connected := false })
          fun h => by cases h)

theorem checkReturn_confines (sqlerrcode : SqlState) (rc : SqlReturn) :
    Confines key (checkReturn env key sqlerrcode rc) w := by
  rw [checkReturn]
  split_ifs
  · exact Confined.refl key w
  · obtain ⟨w₁, hrun, hconfined, hlost⟩ := dropConnection_run env w key
    rw [Confines, tbFdwReportError, Proc.bind_of_ok hrun]
    exact ⟨hconfined, hlost⟩

theorem tbCall_confines_of {call : SqlCall}
    (h : Confined key w (w.issued env call (w.nextRc env))) :
    Confines key (tbCall env key call) w := by
  refine Confines.bind h fun rc w₁ hrun => ?_
  exact checkReturn_confines ..

/-- A wrapper of a quiet call. -/
theorem tbCall_confines {call : SqlCall} (hq : call.quiet = true) :
    Confines key (tbCall env key call) w :=
  tbCall_confines_of (Confined.issued hq _)

theorem modifyConn_confines {f : ConnCacheEntry → ConnCacheEntry}
    (hf : (f (w.conn key)).connected = true →
      (w.conn key).connected = true ∧ (f (w.conn key)).hdbc = (w.conn key).hdbc) :
    Confines key (modifyConn key f) w :=
  Confines.modify (Confined.setConn hf)

theorem tbSqlAllocHandle_confines {handleType : HandleType} {inputHandle : Handle}
    {store : Handle → Fdw Unit} (hstore : ∀ h w₁, w₁.conn = w.conn → Confines key (store h) w₁) :
    Confines key (tbSqlAllocHandle env key handleType inputHandle store) w := by
  refine Confines.bind (Confines.read_bind (Confines.bind (m := issue env _) ?_ fun _ _ _ =>
    Confines.pure _)) fun r w₁ hrun => ?_
  · exact Confined.issued (by cases handleType <;> rfl) _
  · have hconn : w₁.conn = w.conn := by
      rw [sqlAllocHandle, Proc.read_bind_run] at hrun
      cases hrun
      rfl
    refine Confines.bind (hstore _ w₁ hconn) fun _ w₂ _ => ?_
    exact Confines.bind (checkReturn_confines ..) fun _ _ _ => Confines.pure _

theorem allocStatement_confines {tbStmt : TbStatement} (hconn : tbStmt.conn = key) :
    Confines key (allocStatement env tbStmt) w := by
  subst hconn
  refine Confines.read_bind (Confines.bind ?_ fun _ _ _ => Confines.pure _)
  exact tbSqlAllocHandle_confines fun _ _ _ => Confines.pure _

theorem beginRemoteXact_confines {tbStmt : TbStatement} (hconn : tbStmt.conn = key)
    (isSerializable : Bool) : Confines key (beginRemoteXact env tbStmt isSerializable) w := by
  subst hconn
  refine Confines.bind (Confines.read_bind (tbCall_confines rfl)) fun _ _ _ => ?_
  refine Confines.bind (tbCall_confines rfl) fun _ _ _ => ?_
  exact modifyConn_confines fun h => ⟨h, rfl⟩

theorem tbSqlFetch_confines {tbStmt : TbStatement} (hconn : tbStmt.conn = key) :
    Confines key (tbSqlFetch env tbStmt) w := by
  subst hconn
  refine Confines.bind ?_ fun r w₁ _ => ?_
  · rw [Confines, sqlFetch]
    split_ifs <;> exact Confined.issued rfl _
  · dsimp only
    split_ifs
    · exact Confines.pure _
    · exact Confines.bind (checkReturn_confines ..) fun _ _ _ => Confines.pure _

theorem fetchTsn_confines {tbStmt : TbStatement} (hconn : tbStmt.conn = key) :
    Confines key (fetchTsn env tbStmt) w := by
  subst hconn
  refine Confines.bind (tbCall_confines rfl) fun _ _ _ => ?_
  refine Confines.bind (tbCall_confines rfl) fun _ _ _ => ?_
  refine Confines.bind (tbSqlFetch_confines rfl) fun r _ _ => ?_
  refine Confines.bind (m := storeTsn tbStmt.conn r.1) ?_ fun _ _ _ => ?_
  · unfold storeTsn
    split
    · exact modifyConn_confines fun h => ⟨h, rfl⟩
    · exact Confines.pure _
  · refine Confines.bind (tbCall_confines rfl) fun _ w₁ _ => ?_
    exact Confines.modify (Confined.setConn fun h => ⟨h, rfl⟩)

theorem openStatement_confines {tbStmt : TbStatement} (hconn : tbStmt.conn = key)
    (useFbQuery : Bool) : Confines key (openStatement env tbStmt useFbQuery) w := by
  refine Confines.bind (allocStatement_confines hconn) fun stmt w₁ halloc => ?_
  have hconn' : stmt.conn = key := by
    rw [(allocStatement_ok halloc).1]
    exact hconn
  refine Confines.read_bind (Confines.bind (Confines.when fun _ => ?_) fun _ w₂ _ => ?_)
  · exact beginRemoteXact_confines hconn' _
  · refine Confines.read_bind (Confines.bind (Confines.when fun _ => ?_) fun _ w₃ _ => ?_)
    · exact fetchTsn_confines hconn'
    · exact Confines.read_bind (Confines.pure _)

theorem disconnectTbServer_confines : Confines key (disconnectTbServer env key) w := by
  refine Confines.read_bind (Confines.when fun hconn => ?_)
  refine Confines.bind ?_ fun _ _ _ => ?_
  · exact Confines.read_bind (tbCall_confines_of (Confined.issued_disconnect hconn _))
  · refine Confines.bind (tbCall_confines rfl) fun _ _ _ => ?_
    refine Confines.bind (tbCall_confines rfl) fun _ _ _ => ?_
    exact modifyConn_confines fun h => by cases h

/-- A connection that was not made leaves the entry without one. -/
theorem connectTbServer_raise {params : ConnParams} {e : PgError}
    (hconn : (w.conn key).connected = false)
    (h : connectTbServer env key params w = .raise e w') :
    Confined key w w' ∧ (w'.conn key).connected = false := by
  have hstore : ∀ (f : Handle → ConnCacheEntry → ConnCacheEntry) h w₁,
      (w₁.conn key).connected = false → (∀ c, (f h c).connected = c.connected) →
      Confines key (modifyConn key (f h)) w₁ := by
    intro f h w₁ hw₁ hf
    refine modifyConn_confines fun hc => ?_
    rw [hf, hw₁] at hc
    cases hc
  rw [connectTbServer] at h
  rcases Confines.raise_bind (tbSqlAllocHandle_confines fun h w₁ hw₁ =>
      hstore (fun h c => { c with henv := h }) h w₁ (by rw [hw₁, hconn]) fun _ => rfl) h with
    hraise | ⟨henv, w₁, h₁, hc₁, h⟩
  · exact hraise
  rcases Confines.raise_bind (Confines.read_bind (tbCall_confines rfl)) h with
    hraise | ⟨_, w₂, h₂, hc₂, h⟩
  · exact ⟨hc₁.trans hraise.1, hraise.2⟩
  have hconn₂ : (w₂.conn key).connected = false := by
    rcases hc : (w₂.conn key).connected with _ | _
    · rfl
    · have := ((hc₁.trans hc₂).entry hc).1
      rw [hconn] at this
      cases this
  rcases Confines.raise_bind (tbSqlAllocHandle_confines fun h w₁ hw₁ =>
      hstore (fun h c => { c with hdbc := h }) h w₁ (by rw [hw₁, hconn₂]) fun _ => rfl) h with
    hraise | ⟨hdbc, w₃, h₃, hc₃, h⟩
  · exact ⟨(hc₁.trans hc₂).trans hraise.1, hraise.2⟩
  -- the last call is the one that opens the session: it has failed
  have hc₁₃ := (hc₁.trans hc₂).trans hc₃
  rcases Proc.bind_eq_raise.mp h with hraise | ⟨_, w₄, -, hraise⟩
  · rw [tbSqlDriverConnect, Proc.read_bind_run, Proc.bind_of_ok (issue_run _)] at hraise
    have hfail : ¬sqlSucceeded (w₃.nextRc env) = true := by
      intro hrc
      rw [checkReturn, if_pos hrc] at hraise
      cases hraise
    have hc₄ : Confined key w₃ (w₃.called env
        (.driverConnect (w₃.conn key).hdbc (connectionString params))) :=
      Confined.issued_failed hfail _
    have hraised := (checkReturn_confines ..).apply_raise hraise
    exact ⟨(hc₁₃.trans hc₄).trans hraised.1, hraised.2⟩
  · cases hraise

theorem makeTbConnection_raise {pg : Postgres} {user : UserMapping} {e : PgError}
    (hconn : (w.conn key).connected = false)
    (h : makeTbConnection pg env key user w = .raise e w') :
    Confined key w w' ∧ (w'.conn key).connected = false := by
  obtain ⟨w₁, hserver, hdel, -⟩ := getForeignServer_run env user.serverid w
  have hc₁ : Confined key w w₁ := Confined.of_delivered hdel
  have hconn₁ : (w₁.conn key).connected = false := by rw [(hdel.conn key).connected, hconn]
  rw [makeTbConnection, Proc.bind_of_ok hserver] at h
  rcases Proc.bind_eq_raise.mp h with hraise | ⟨_, w₂, hreset, h⟩
  · cases hraise
  cases hreset
  obtain ⟨keep, hnext⟩ := applyConnectionOptions_next
    (w₁.setConn key (resetEntry env (env.foreignServer w.lookups user.serverid) user)) key pg
    (env.foreignServer w.lookups user.serverid).options ⟨none, none, none, none, none⟩
  rw [World.setConn_setConn] at hnext
  have hc₃ : Confined key w₁ (w₁.setConn key fun c =>
      { resetEntry env (env.foreignServer w.lookups user.serverid) user c with
        keepConnections := keep }) :=
    Confined.setConn fun hc => ⟨hc, rfl⟩
  rcases Proc.bind_eq_raise.mp h with hraise | ⟨params, w₃, hoptions, h⟩
  · rw [hraise, Outcome.next_raise] at hnext
    rw [hnext]
    refine ⟨hc₁.trans hc₃, ?_⟩
    rw [World.setConn_self]
    exact hconn₁
  · rw [hoptions, Outcome.next_ok] at hnext
    rw [hnext] at h
    have hraised := connectTbServer_raise (by rw [World.setConn_self]; exact hconn₁) h
    exact ⟨(hc₁.trans hc₃).trans hraised.1, hraised.2⟩

theorem ensureConnection_raise {pg : Postgres} {user : UserMapping} {e : PgError}
    (h : ensureConnection pg env key user w = .raise e w') :
    Confined key w w' ∧ (w'.conn key).connected = false := by
  rw [ensureConnection, Proc.read_bind_run] at h
  rcases Confines.raise_bind (Confines.when fun _ => disconnectTbServer_confines) h with
    hraise | ⟨_, w₁, -, hc₁, h⟩
  · exact hraise
  rw [Proc.read_bind_run] at h
  rcases hconn : (w₁.conn key).connected with _ | _
  · rw [hconn, Bool.not_false, Proc.when_true] at h
    have hraised := makeTbConnection_raise hconn h
    exact ⟨hc₁.trans hraised.1, hraised.2⟩
  · rw [hconn] at h
    cases h

/-! ## New sessions -/

/-- A new session for the entry. -/
theorem Consistent.of_replaced (hw : Consistent w) (hkey : key ∈ w.keys)
    (h : Replaced env key w w') : Consistent w' := by
  obtain ⟨connStr, hremote⟩ := h.remote
  have hgt := h.hdbc_gt
  have hlive : ∀ k, k ≠ key → w'.Live k → w.Live k ∧ (w'.conn k).hdbc = (w.conn k).hdbc ∧
      (w'.conn k).beginRemoteXact = (w.conn k).beginRemoteXact := by
    intro k hne hk
    have hsame := h.others k hne
    exact ⟨⟨h.keys ▸ hk.1, hsame.connected ▸ hk.2⟩, hsame.hdbc, hsame.beginRemoteXact⟩
  -- another session is neither the one that was closed nor the new one
  have hother : ∀ k, k ≠ key → w'.Live k →
      w'.remote.isOpen (w.conn k).hdbc = w.remote.isOpen (w.conn k).hdbc ∧
        w'.remote.autocommit (w.conn k).hdbc = w.remote.autocommit (w.conn k).hdbc ∧
        (w.conn k).hdbc ≠ (w'.conn key).hdbc := by
    intro k hne hk
    obtain ⟨hk', -⟩ := hlive k hne hk
    -- the new handle is younger than those of the sessions before
    have hnew : (w.conn k).hdbc ≠ (w'.conn key).hdbc := by
      intro heq
      have := hw.fresh k hk'
      rw [heq] at this
      omega
    have hdropped : (w.remote.dropped (w.conn key)).isOpen (w.conn k).hdbc =
          w.remote.isOpen (w.conn k).hdbc ∧
        (w.remote.dropped (w.conn key)).autocommit (w.conn k).hdbc =
          w.remote.autocommit (w.conn k).hdbc := by
      rw [Remote.dropped]
      split_ifs with hconn
      · refine ⟨?_, rfl⟩
        exact Remote.set_of_ne fun heq => hne (hw.distinct k key hk' ⟨hkey, hconn⟩ heq)
      · exact ⟨rfl, rfl⟩
    rw [hremote]
    exact ⟨(Remote.set_of_ne hnew).trans hdropped.1, (Remote.set_of_ne hnew).trans hdropped.2, hnew⟩
  refine ⟨h.keys ▸ hw.nodup, ?_, ?_, ?_, ?_⟩
  · intro k hk
    by_cases hne : k = key
    · rw [hne, hremote]
      simp [Remote.effect]
    · obtain ⟨hk', hhdbc, -⟩ := hlive k hne hk
      rw [hhdbc, (hother k hne hk).1]
      exact hw.isOpen k hk'
  · intro k hk
    by_cases hne : k = key
    · rw [hne]
      exact h.hdbc_le
    · obtain ⟨hk', hhdbc, -⟩ := hlive k hne hk
      have := hw.fresh k hk'
      have := h.hdbc_le
      rw [hhdbc]
      omega
  · intro k hk hbegin
    by_cases hne : k = key
    · rw [hne, h.beginRemoteXact] at hbegin
      cases hbegin
    · obtain ⟨hk', hhdbc, hbegin'⟩ := hlive k hne hk
      rw [hhdbc, (hother k hne hk).2.1]
      exact hw.autocommit k hk' (hbegin' ▸ hbegin)
  · intro k k' hk hk' heq
    by_cases hne : k = key <;> by_cases hne' : k' = key
    · rw [hne, hne']
    · rw [hne, (hlive k' hne' hk').2.1] at heq
      exact ((hother k' hne' hk').2.2 heq.symm).elim
    · rw [hne', (hlive k hne hk).2.1] at heq
      exact ((hother k hne hk).2.2 heq).elim
    · obtain ⟨hlk, hhdbc, -⟩ := hlive k hne hk
      obtain ⟨hlk', hhdbc', -⟩ := hlive k' hne' hk'
      rw [hhdbc, hhdbc'] at heq
      exact hw.distinct k k' hlk hlk' heq

/-- A statement on the session of the entry. -/
theorem Consistent.of_opened {stmt : TbStatement} (hw : Consistent w) (hlive : w.Live key)
    (h : Opened key w w' stmt) : Consistent w' := by
  have htrace := h.trace
  have hback : ∀ k, w'.Live k → w.Live k ∧ (w'.conn k).hdbc = (w.conn k).hdbc := by
    intro k hk
    by_cases hne : k = key
    · subst hne
      exact ⟨hlive, h.hdbc⟩
    · have hsame := h.others k hne
      exact ⟨⟨h.keys ▸ hk.1, hsame ▸ hk.2⟩, by rw [hsame]⟩
  refine ⟨h.keys ▸ hw.nodup, ?_, ?_, ?_, ?_⟩
  · intro k hk
    obtain ⟨hk', hhdbc⟩ := hback k hk
    rw [hhdbc, h.isOpen]
    exact hw.isOpen k hk'
  · intro k hk
    obtain ⟨hk', hhdbc⟩ := hback k hk
    have := hw.fresh k hk'
    rw [hhdbc]
    omega
  · intro k hk hbegin
    obtain ⟨hk', hhdbc⟩ := hback k hk
    rw [hhdbc, h.autocommit]
    by_cases hne : k = key
    · subst hne
      split_ifs with hbegun
      · exact hw.autocommit k hk' hbegun
      · exact Remote.set_same ..
    · rw [h.others k hne] at hbegin
      have hoff := hw.autocommit k hk' hbegin
      split_ifs
      · exact hoff
      · rw [Remote.set_of_ne fun heq => hne (hw.distinct k key hk' hlive heq)]
        exact hoff
  · intro k k' hk hk' heq
    obtain ⟨hlk, hhdbc⟩ := hback k hk
    obtain ⟨hlk', hhdbc'⟩ := hback k' hk'
    rw [hhdbc, hhdbc'] at heq
    exact hw.distinct k k' hlk hlk' heq

/-! ## `get_tb_statement` -/

theorem Replaced.executed (h : Replaced env key w w') :
    w'.remote.executed = w.remote.executed := by
  obtain ⟨connStr, hremote⟩ := h.remote
  rw [hremote, Remote.effect, Remote.dropped]
  split_ifs <;> rfl

theorem Ensured.executed (h : Ensured env key w w') :
    w'.remote.executed = w.remote.executed := by
  rcases h with ⟨-, rfl⟩ | ⟨-, h⟩
  · rfl
  · exact h.executed

/-- The connection a statement is opened on is live. -/
theorem Ensured.live (hw : Consistent w) (hkey : key ∈ w.keys) (h : Ensured env key w w') :
    Consistent w' ∧ w'.Live key := by
  rcases h with ⟨huse, rfl⟩ | ⟨-, h⟩
  · rw [ConnCacheEntry.upToDate, Bool.and_eq_true] at huse
    exact ⟨hw, ⟨hkey, huse.1⟩⟩
  · exact ⟨hw.of_replaced hkey h, ⟨h.keys ▸ hkey, h.connected⟩⟩

/-- The entry has lost its session; what is left is consistent. -/
structure Lost (key : ConnCacheKey) (w w' : World) : Prop where
  consistent : Consistent w'
  keys : w'.keys = w.keys
  xactGotConnection : w'.xactGotConnection = w.xactGotConnection
  connected : (w'.conn key).connected = false
  executed : w'.remote.executed = w.remote.executed

theorem Lost.of_confined (hw : Consistent w) (hkey : key ∈ w.keys)
    (h : Confined key w w' ∧ (w'.conn key).connected = false) : Lost key w w' :=
  ⟨hw.of_confined hkey h.1 h.2, h.1.keys, h.1.xactGotConnection, h.2, h.1.executed⟩

/-- An error of the first attempt. -/
theorem tryTbStatement_raise {pg : Postgres} {user : UserMapping} {tbStmt : TbStatement}
    {useFbQuery : Bool} {e : PgError} (hw : Consistent w) (hkey : tbStmt.conn ∈ w.keys)
    (h : tryTbStatement pg env user tbStmt useFbQuery w = .raise e w') :
    Lost tbStmt.conn w w' := by
  rcases Proc.bind_eq_raise.mp h with hraise | ⟨_, w₁, hensure, hraise⟩
  · exact Lost.of_confined hw hkey (ensureConnection_raise hraise)
  · have hensured : Ensured env tbStmt.conn w w₁ := ensureConnection_ok hensure
    obtain ⟨hw₁, hlive₁⟩ := hensured.live hw hkey
    have hsame : w₁.keys = w.keys ∧ w₁.xactGotConnection = w.xactGotConnection := by
      rcases hensured with ⟨-, rfl⟩ | ⟨-, hreplaced⟩
      · exact ⟨rfl, rfl⟩
      · exact ⟨hreplaced.keys, hreplaced.xactGotConnection⟩
    have hlost := Lost.of_confined hw₁ hlive₁.1
      ((openStatement_confines rfl useFbQuery).apply_raise hraise)
    exact ⟨hlost.consistent, hlost.keys.trans hsame.1,
      hlost.xactGotConnection.trans hsame.2, hlost.connected,
      hlost.executed.trans hensured.executed⟩

/-- An error of the second attempt. -/
theorem retryTbStatement_raise {pg : Postgres} {user : UserMapping} {tbStmt : TbStatement}
    {e : PgError} (hw : Consistent w) (hkey : tbStmt.conn ∈ w.keys)
    (h : retryTbStatement pg env user tbStmt w = .raise e w') : Consistent w' := by
  rw [retryTbStatement] at h
  rcases Confines.raise_bind disconnectTbServer_confines h with
    hraise | ⟨_, w₁, hdisconnect, hc₁, h⟩
  · exact hw.of_confined hkey hraise.1 hraise.2
  have hconn₁ : (w₁.conn tbStmt.conn).connected = false := by
    rcases disconnectTbServer_ok hdisconnect with ⟨hconn, rfl⟩ | ⟨-, rfl, -⟩
    · exact hconn
    · exact World.disconnected_connected
  rcases Proc.bind_eq_raise.mp h with hraise | ⟨_, w₂, hmake, h⟩
  · have hraised := makeTbConnection_raise hconn₁ hraise
    exact hw.of_confined hkey (hc₁.trans hraised.1) hraised.2
  have hreplaced := replaced_of_disconnect hdisconnect hmake
  have hw₂ := hw.of_replaced hkey hreplaced
  have hkey₂ : tbStmt.conn ∈ w₂.keys := hreplaced.keys ▸ hkey
  rcases Confines.raise_bind (allocStatement_confines rfl) h with
    hraise | ⟨stmt, w₃, halloc, hc₃, h⟩
  · exact hw₂.of_confined hkey₂ hraise.1 hraise.2
  have hconn : stmt.conn = tbStmt.conn := by rw [(allocStatement_ok halloc).1]
  rw [Proc.read_bind_run] at h
  rcases Confines.raise_bind (beginRemoteXact_confines hconn _) h with hraise | ⟨_, w₄, -, -, h⟩
  · exact hw₂.of_confined hkey₂ (hc₃.trans hraise.1) hraise.2
  · cases h

@[simp] theorem World.entered_remote : (w.entered env key).remote = w.remote := by
  rw [World.entered]
  split_ifs <;> rfl

@[simp] theorem World.entered_trace : (w.entered env key).trace = w.trace := by
  rw [World.entered]
  split_ifs <;> rfl

theorem World.mem_entered_keys {k : ConnCacheKey} :
    k ∈ (w.entered env key).keys ↔ k = key ∨ k ∈ w.keys := by
  rw [World.entered]
  split_ifs with hkey
  · refine ⟨.inr, ?_⟩
    rintro (rfl | hk)
    · exact hkey
    · exact hk
  · have hsplit : w.keys = w.keys.take (env.hashSlot key w.keys) ++
        w.keys.drop (env.hashSlot key w.keys) := (List.take_append_drop ..).symm
    constructor
    · intro hk
      rcases List.mem_append.mp hk with hk | hk
      · exact .inr (List.mem_of_mem_take hk)
      · rcases List.mem_cons.mp hk with hk | hk
        · exact .inl hk
        · exact .inr (List.mem_of_mem_drop hk)
    · rintro (rfl | hk)
      · exact List.mem_append.mpr (.inr (List.mem_cons_self ..))
      · rw [hsplit] at hk
        rcases List.mem_append.mp hk with hk | hk
        · exact List.mem_append.mpr (.inl hk)
        · exact List.mem_append.mpr (.inr (List.mem_cons_of_mem _ hk))

/-- Entering a key changes no live entry, and makes none. -/
theorem World.entered_live {k : ConnCacheKey} (hk : (w.entered env key).Live k) :
    w.Live k ∧ (w.entered env key).conn k = w.conn k := by
  obtain ⟨hmem, hconn⟩ := hk
  rw [World.mem_entered_keys] at hmem
  rw [World.entered] at hconn ⊢
  split_ifs at hconn ⊢ with hkey
  · refine ⟨⟨?_, hconn⟩, rfl⟩
    rcases hmem with rfl | hmem
    · exact hkey
    · exact hmem
  · by_cases hne : k = key
    · subst hne
      change ((w.setConn k fun c => { c with connected := false }).conn k).connected = true at hconn
      rw [World.setConn_self] at hconn
      cases hconn
    · change ((w.setConn key fun c => { c with connected := false }).conn k).connected = true
        at hconn
      have hsame := World.setConn_of_ne (w := w) hne fun c => { c with connected := false }
      rw [hsame] at hconn
      exact ⟨⟨hmem.resolve_left hne, hconn⟩, hsame⟩

variable (env key) in
theorem World.entered_of_live {k : ConnCacheKey} (hk : w.Live k) :
    (w.entered env key).Live k ∧ (w.entered env key).conn k = w.conn k := by
  have hsame : (w.entered env key).conn k = w.conn k := by
    rw [World.entered]
    split_ifs with hkey
    · rfl
    · have hne : k ≠ key := by
        rintro rfl
        exact hkey hk.1
      exact World.setConn_of_ne hne fun c => { c with connected := false }
  exact ⟨⟨World.mem_entered_keys.mpr (.inr hk.1), hsame ▸ hk.2⟩, hsame⟩

/-- A key is added once. -/
theorem World.entered_nodup (h : w.keys.Nodup) (env : Environment) (key : ConnCacheKey) :
    (w.entered env key).keys.Nodup := by
  rw [World.entered]
  split_ifs with hkey
  · exact h
  · have hperm : (w.keys.take (env.hashSlot key w.keys) ++
        key :: w.keys.drop (env.hashSlot key w.keys)).Perm (key :: w.keys) := by
      apply List.perm_middle.trans
      rw [List.take_append_drop]
    exact hperm.nodup_iff.mpr (List.nodup_cons.mpr ⟨hkey, h⟩)

theorem Consistent.entered (hw : Consistent w) (env : Environment) (key : ConnCacheKey) :
    Consistent (w.entered env key) := by
  refine ⟨World.entered_nodup hw.nodup env key, ?_, ?_, ?_, ?_⟩
  · intro k hk
    obtain ⟨hk', hsame⟩ := World.entered_live hk
    rw [hsame, World.entered_remote]
    exact hw.isOpen k hk'
  · intro k hk
    obtain ⟨hk', hsame⟩ := World.entered_live hk
    rw [hsame, World.entered_trace]
    exact hw.fresh k hk'
  · intro k hk
    obtain ⟨hk', hsame⟩ := World.entered_live hk
    rw [hsame, World.entered_remote]
    exact hw.autocommit k hk'
  · intro k k' hk hk'
    obtain ⟨hlk, hsame⟩ := World.entered_live hk
    obtain ⟨hlk', hsame'⟩ := World.entered_live hk'
    rw [hsame, hsame']
    exact hw.distinct k k' hlk hlk'

/-- **`get_tb_statement` keeps the sessions consistent**, also when it fails. Both attempts do, and
so does the disconnection between them. -/
theorem getTbStatement_consistent (pg : Postgres) (user : UserMapping) (tbStmt : TbStatement)
    (useFbQuery : Bool) :
    Proc.Keeps Consistent (getTbStatement pg env user tbStmt useFbQuery) := by
  intro w hw
  have hentered := hw.entered env user.umid
  have hkey : user.umid ∈ (w.entered env user.umid).keys := World.mem_entered_keys.mpr (.inl rfl)
  rcases hrun : getTbStatement pg env user tbStmt useFbQuery w with ⟨stmt, w'⟩ | ⟨e, w'⟩
  · change Consistent w'
    rcases getTbStatement_ok hrun with htry | ⟨err, w₁, htry, -, hretry⟩
    · obtain ⟨w₂, hensured, hopened⟩ := tryTbStatement_ok htry
      obtain ⟨hw₂, hlive₂⟩ := hensured.live hentered hkey
      exact hw₂.of_opened hlive₂ hopened
    · have hlost := tryTbStatement_raise hentered hkey htry
      obtain ⟨w₂, hreplaced, hopened⟩ := retryTbStatement_ok hretry
      have hkey₁ : user.umid ∈ w₁.keys := hlost.keys ▸ hkey
      have hw₂ := hlost.consistent.of_replaced hkey₁ hreplaced
      exact hw₂.of_opened ⟨hreplaced.keys ▸ hkey₁, hreplaced.connected⟩ hopened
  · change Consistent w'
    rw [getTbStatement_run] at hrun
    rcases htry : tryTbStatement pg env user { tbStmt with conn := user.umid } useFbQuery
        (w.entered env user.umid) with ⟨stmt₁, w₁⟩ | ⟨err, w₁⟩
    · rw [Proc.onError_of_ok htry] at hrun
      cases hrun
    · rw [Proc.onError_of_raise htry] at hrun
      have hlost := tryTbStatement_raise hentered hkey htry
      by_cases hcode : err.sqlerrcode = .fdwError
      · rw [if_pos hcode] at hrun
        exact retryTbStatement_raise hlost.consistent (hlost.keys ▸ hkey) hrun
      · rw [if_neg hcode] at hrun
        cases hrun
        exact hlost.consistent

/-! ## The callbacks -/

theorem endRemoteXact_confines (completionType : CompletionType) :
    Confines key (endRemoteXact env key completionType) w := by
  refine Confines.read_bind (Confines.when fun _ => Confines.bind ?_ fun _ w₁ _ => ?_)
  · refine Confines.read_bind (Confines.bind (tbCall_confines ?_) fun _ _ _ => ?_)
    · cases completionType <;> rfl
    · exact modifyConn_confines fun h => ⟨h, rfl⟩
  · exact Confines.read_bind (Confines.when fun _ => disconnectTbServer_confines)

/-- The same session, with the same marks or fewer. -/
theorem Consistent.of_same (hw : Consistent w) (hkeys : w'.keys = w.keys)
    (htrace : w.trace.length ≤ w'.trace.length)
    (hconn : ∀ k, (w'.conn k).connected = true →
      (w.conn k).connected = true ∧ (w'.conn k).hdbc = (w.conn k).hdbc ∧
        ((w'.conn k).beginRemoteXact = true → (w.conn k).beginRemoteXact = true))
    (hopen : w'.remote.isOpen = w.remote.isOpen)
    (hauto : ∀ h, w.remote.autocommit h = false → w'.remote.autocommit h = false) :
    Consistent w' := by
  have hback : ∀ k, w'.Live k → w.Live k := fun k hk => ⟨hkeys ▸ hk.1, (hconn k hk.2).1⟩
  refine ⟨hkeys ▸ hw.nodup, ?_, ?_, ?_, ?_⟩
  · intro k hk
    rw [(hconn k hk.2).2.1, hopen]
    exact hw.isOpen k (hback k hk)
  · intro k hk
    rw [(hconn k hk.2).2.1]
    exact Nat.le_trans (hw.fresh k (hback k hk)) htrace
  · intro k hk hbegin
    rw [(hconn k hk.2).2.1]
    exact hauto _ (hw.autocommit k (hback k hk) ((hconn k hk.2).2.2 hbegin))
  · intro k k' hk hk' heq
    rw [(hconn k hk.2).2.1, (hconn k' hk'.2).2.1] at heq
    exact hw.distinct k k' (hback k hk) (hback k' hk') heq

/-- The end of a remote transaction. -/
theorem Consistent.of_ended {completionType : CompletionType} (hw : Consistent w)
    (hlive : w.Live key) (hconfined : Confined key w w')
    (h : Ended env key completionType w w') : Consistent w' := by
  rcases hconn : (w'.conn key).connected with _ | _
  · exact hw.of_confined hlive.1 hconfined hconn
  · obtain ⟨hhdbc, hremote⟩ := h.kept hconn
    have hquiet := Remote.effect_quiet
      (show (SqlCall.endTran (w.conn key).hdbc completionType).quiet = true from rfl) w.remote
    rw [← hremote] at hquiet
    refine hw.of_same h.keys h.trace ?_ hquiet.1 hquiet.2.2
    intro k hk
    by_cases hne : k = key
    · subst hne
      refine ⟨hlive.2, hhdbc, fun hbegin => ?_⟩
      rw [h.beginRemoteXact] at hbegin
      cases hbegin
    · rw [h.others k hne] at hk ⊢
      exact ⟨hk, rfl, id⟩

theorem endRemoteXact_consistent (completionType : CompletionType) (hw : Consistent w)
    (hkey : key ∈ w.keys) :
    Consistent (endRemoteXact env key completionType w).next ∧
      (endRemoteXact env key completionType w).next.keys = w.keys := by
  have hconfines : Confines key (endRemoteXact env key completionType) w :=
    endRemoteXact_confines completionType
  rcases hrun : endRemoteXact env key completionType w with ⟨u, w'⟩ | ⟨e, w'⟩
  · have hconfined := hconfines.apply_ok hrun
    refine ⟨?_, hconfined.keys⟩
    rcases hconn : (w.conn key).connected with _ | _
    · rw [endRemoteXact, Proc.read_bind_run, hconn] at hrun
      cases hrun
      exact hw
    · exact hw.of_ended ⟨hkey, hconn⟩ hconfined (endRemoteXact_ok hconn hrun)
  · obtain ⟨hconfined, hlost⟩ := hconfines.apply_raise hrun
    exact ⟨hw.of_confined hkey hconfined hlost, hconfined.keys⟩

/-- Forgetting the session of an entry. -/
theorem Consistent.lose (hw : Consistent w) (hkey : key ∈ w.keys) :
    Consistent (w.setConn key fun c => { c with connected := false }) := by
  have hconfined : Confined key w (w.setConn key fun c => { c with connected := false }) :=
    Confined.setConn fun h => by cases h
  exact hw.of_confined hkey hconfined (by simp)

variable (env) in
theorem xactCallbackEntry_consistent (event : XactEvent) (hw : Consistent w) (hkey : key ∈ w.keys) :
    Consistent (xactCallbackEntry env event key w).next ∧
      (xactCallbackEntry env event key w).next.keys = w.keys := by
  rw [xactCallbackEntry, Proc.read_bind_run]
  rcases (w.conn key).beginRemoteXact with _ | _
  · exact ⟨hw, rfl⟩
  · rw [Proc.when_true]
    cases event with
    | preCommit | parallelPreCommit => exact endRemoteXact_consistent .commit hw hkey
    | prePrepare | commit | parallelCommit | prepare => exact ⟨hw, rfl⟩
    | abort | parallelAbort =>
      dsimp only
      split_ifs
      · exact ⟨hw.lose hkey, rfl⟩
      · exact endRemoteXact_consistent .rollback hw hkey

/-- A change of the world that no session depends on. -/
theorem Consistent.congr (hw : Consistent w) (hkeys : w'.keys = w.keys) (hconn : w'.conn = w.conn)
    (htrace : w'.trace = w.trace) : Consistent w' := by
  have hremote : w'.remote = w.remote := by rw [World.remote, World.remote, htrace]
  refine hw.of_same hkeys (by simp [htrace]) ?_ (by rw [hremote]) (by simp [hremote])
  intro k hk
  rw [hconn] at hk ⊢
  exact ⟨hk, rfl, id⟩

/-- **The transaction callback keeps the sessions consistent**, also when it fails: the entries it
did not come to are as they were. -/
theorem tbfdwXactCallback_consistent (event : XactEvent) :
    Proc.Keeps Consistent (tbfdwXactCallback env event) := by
  refine Proc.Triple.read_bind fun w₀ => ?_
  rcases w₀.xactGotConnection with _ | _
  · exact Proc.Triple.pure fun w h => h.1
  rw [Proc.when_true]
  refine Proc.Triple.bind (Q := fun _ w => Consistent w ∧ w.keys = w₀.keys) ?_ fun _ => ?_
  · refine Proc.Triple.modify fun w h => ?_
    obtain ⟨hw, rfl⟩ := h
    exact ⟨hw.congr rfl rfl rfl, rfl⟩
  refine Proc.Triple.bind (Q := fun _ w => Consistent w ∧ w.keys = w₀.keys) ?_ fun _ => ?_
  · refine (Proc.Triple.forEach (I := fun w => Consistent w ∧ w.keys = w₀.keys)
      fun key hkey => ?_).weaken (fun _ h => h) (fun _ _ h => h) fun _ _ h => h
    intro w hw
    have hentry := xactCallbackEntry_consistent env event hw.1 (hw.2.symm ▸ hkey)
    rcases hrun : xactCallbackEntry env event key w with ⟨u, w'⟩ | ⟨e, w'⟩ <;>
      rw [hrun] at hentry
    · exact ⟨hentry.1, hentry.2.trans hw.2⟩
    · exact hentry.1
  refine Proc.Triple.bind (Q := fun _ w => Consistent w) ?_ fun _ => ?_
  · exact Proc.Triple.modify fun w h => h.1.congr rfl rfl rfl
  · exact Proc.Triple.modify fun w h => h.congr rfl rfl rfl

theorem tbfdwInvalCallback_consistent (cacheid : CacheId) (hashvalue : Nat) (hw : Consistent w) :
    Consistent (tbfdwInvalCallback cacheid hashvalue w).next := by
  obtain ⟨w', hrun, hd⟩ := tbfdwInvalCallback_run cacheid hashvalue w
  rw [hrun, Outcome.next_ok]
  have hremote : w'.remote = w.remote := by rw [World.remote, World.remote, hd.trace]
  refine hw.of_same hd.keys (by simp [hd.trace]) ?_ (by rw [hremote]) (by simp [hremote])
  intro k hk
  rw [(hd.conn k).connected] at hk
  exact ⟨hk, (hd.conn k).hdbc, fun hbegin => (hd.conn k).beginRemoteXact ▸ hbegin⟩

/-! ## Calls on a statement -/

theorem tbCall_consistent {call : SqlCall} (hq : call.quiet = true) (hw : Consistent w)
    (hkey : key ∈ w.keys) : Consistent (tbCall env key call w).next := by
  rcases hrun : tbCall env key call w with ⟨u, w'⟩ | ⟨e, w'⟩
  · obtain ⟨hrc, rfl⟩ := tbCall_eq_ok.mp hrun
    have hquiet := Remote.effect_quiet hq w.remote
    rw [← World.called_remote hrc] at hquiet
    exact hw.of_same (by simp) (by simp) (fun k hk => ⟨hk, rfl, id⟩) hquiet.1 hquiet.2.2
  · have hraised := (tbCall_confines hq).apply_raise hrun
    exact hw.of_confined hkey hraised.1 hraised.2

theorem tbSqlFetch_consistent {tbStmt : TbStatement} (hw : Consistent w)
    (hkey : tbStmt.conn ∈ w.keys) : Consistent (tbSqlFetch env tbStmt w).next := by
  rcases hrun : tbSqlFetch env tbStmt w with ⟨r, w'⟩ | ⟨e, w'⟩
  · obtain ⟨rc, rfl, hremote⟩ := tbSqlFetch_ok hrun
    refine hw.of_same (by simp) (by simp) (fun k hk => ⟨hk, rfl, id⟩) ?_ ?_
    · rw [Outcome.next_ok, hremote]
    · simp [hremote]
  · have hraised := (tbSqlFetch_confines rfl).apply_raise hrun
    exact hw.of_confined hkey hraised.1 hraised.2

/-- An execution that returns was issued and succeeded. -/
theorem tbSqlExecute_ok {tbStmt stmt : TbStatement} (h : tbSqlExecute env tbStmt w = .ok stmt w') :
    sqlSucceeded (w.nextRc env) = true ∧ stmt = { tbStmt with queryExecuted := true } ∧
      w' = w.called env (.execute tbStmt.hstmt (w.paramValues tbStmt.hstmt)) ∧
      w'.remote = w.remote.effect (.execute tbStmt.hstmt (w.paramValues tbStmt.hstmt)) := by
  rw [tbSqlExecute] at h
  obtain ⟨rc, w₁, hexecute, h⟩ := Proc.bind_eq_ok.mp h
  obtain ⟨_, w₂, hcheck, h⟩ := Proc.bind_eq_ok.mp h
  rw [sqlExecute, Proc.read_bind_run, issue_run] at hexecute
  cases hexecute
  obtain ⟨hrc, rfl⟩ := checkReturn_eq_ok.mp hcheck
  cases h
  exact ⟨hrc, rfl, rfl, World.called_remote hrc⟩

theorem Remote.effect_execute_sessions (r : Remote) (hstmt : Handle)
    (params : List (Nat × Option Text)) :
    (r.effect (.execute hstmt params)).isOpen = r.isOpen ∧
      (r.effect (.execute hstmt params)).autocommit = r.autocommit := by
  rw [Remote.effect]
  dsimp only
  split_ifs <;> exact ⟨rfl, rfl⟩

theorem tbSqlExecute_consistent {tbStmt : TbStatement} (hw : Consistent w)
    (hkey : tbStmt.conn ∈ w.keys) : Consistent (tbSqlExecute env tbStmt w).next := by
  rcases hrun : tbSqlExecute env tbStmt w with ⟨stmt, w'⟩ | ⟨e, w'⟩
  · obtain ⟨hrc, -, hw', hremote⟩ := tbSqlExecute_ok hrun
    obtain ⟨hopen, hauto⟩ := w.remote.effect_execute_sessions tbStmt.hstmt
      (w.paramValues tbStmt.hstmt)
    rw [← hremote] at hopen hauto
    rw [Outcome.next_ok]
    refine hw.of_same (by simp [hw']) (by simp [hw']) ?_ hopen (by simp [hauto])
    intro k hk
    rw [hw', World.called_conn] at hk ⊢
    exact ⟨hk, rfl, id⟩
  · rw [tbSqlExecute, sqlExecute] at hrun
    rcases Proc.bind_eq_raise.mp hrun with hraise | ⟨rc, w₁, hissue, hraise⟩
    · cases hraise
    · rw [Proc.read_bind_run, issue_run] at hissue
      cases hissue
      have hrc : ¬sqlSucceeded (w.nextRc env) = true := by
        intro hrc
        rw [checkReturn, if_pos hrc] at hraise
        cases hraise
      rcases Confines.raise_bind (checkReturn_confines ..) hraise with hraised | ⟨_, _, _, _, h⟩
      · exact hw.of_confined hkey ((Confined.issued_failed hrc _).trans hraised.1) hraised.2
      · cases h

end

/-! ## The worlds of the module -/

/-- The worlds that a backend can be in: it starts with an empty cache, and every
entry point may be called at any time, with any outcome of the driver calls. -/
inductive Reachable (pg : Postgres) : World → Prop where
  | start {w : World} (hkeys : w.keys = []) (htrace : w.trace = []) : Reachable pg w
  | localState {w : World} (isolationUsesXactSnapshot : Bool) (statementStart : Int)
      (inErrorRecursionTrouble : Bool) : Reachable pg w →
      Reachable pg { w with isolationUsesXactSnapshot, statementStart, inErrorRecursionTrouble }
  | getTbStatement {w : World} (env : Environment) (user : UserMapping) (tbStmt : TbStatement)
      (useFbQuery : Bool) : Reachable pg w →
      Reachable pg (getTbStatement pg env user tbStmt useFbQuery w).next
  | call {w : World} (env : Environment) (tbStmt : TbStatement) (call : SqlCall) :
      tbStmt.conn ∈ w.keys → call.quiet = true → Reachable pg w →
      Reachable pg (tbCall env tbStmt.conn call w).next
  | fetch {w : World} (env : Environment) (tbStmt : TbStatement) : tbStmt.conn ∈ w.keys →
      Reachable pg w → Reachable pg (tbSqlFetch env tbStmt w).next
  | execute {w : World} (env : Environment) (tbStmt : TbStatement) : tbStmt.conn ∈ w.keys →
      Reachable pg w → Reachable pg (tbSqlExecute env tbStmt w).next
  | xactCallback {w : World} (env : Environment) (event : XactEvent) : Reachable pg w →
      Reachable pg (tbfdwXactCallback env event w).next
  | subxactCallback {w : World} : Reachable pg w → Reachable pg (tbfdwSubxactCallback w).next
  | invalCallback {w : World} (cacheid : CacheId) (hashvalue : Nat) : Reachable pg w →
      Reachable pg (tbfdwInvalCallback cacheid hashvalue w).next

/-- **The sessions are consistent in every world** that the module can reach, whatever the driver
answers. By induction on how it is reached. -/
theorem Reachable.consistent {pg : Postgres} {w : World} (h : Reachable pg w) : Consistent w := by
  induction h with
  | @start w hkeys htrace =>
    have hnone : ∀ k, ¬w.Live k := by
      rintro k ⟨hk, -⟩
      rw [hkeys] at hk
      cases hk
    exact ⟨by simp [hkeys], fun k hk => (hnone k hk).elim, fun k hk => (hnone k hk).elim,
      fun k hk => (hnone k hk).elim, fun k _ hk => (hnone k hk).elim⟩
  | localState _ _ _ _ ih => exact ih.congr rfl rfl rfl
  | getTbStatement env user tbStmt useFbQuery _ ih =>
    exact (getTbStatement_consistent pg user tbStmt useFbQuery).next ih
  | call env tbStmt call hkey hq _ ih => exact tbCall_consistent hq ih hkey
  | fetch env tbStmt hkey _ ih => exact tbSqlFetch_consistent ih hkey
  | execute env tbStmt hkey _ ih => exact tbSqlExecute_consistent ih hkey
  | xactCallback env event _ ih => exact (tbfdwXactCallback_consistent event).next ih
  | @subxactCallback w _ ih =>
    rw [tbfdwSubxactCallback, Proc.read_bind_run]
    rcases w.xactGotConnection with _ | _
    · exact ih
    · exact ih.congr rfl rfl rfl
  | invalCallback cacheid hashvalue _ ih => exact tbfdwInvalCallback_consistent cacheid hashvalue ih

end TiberoFdw
