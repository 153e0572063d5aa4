import TiberoFdw.Connection

/-!
# When every driver call succeeds

The functions of `connection.c` then raise one error only: a `keep_connections`
option that is no Boolean value. The validator refuses such an option when it is
set, so with the options of the catalog every function returns.
-/

namespace TiberoFdw

/-- Every `keep_connections` option is a Boolean value, as the validator checks. -/
def Environment.OptionsValid (env : Environment) (pg : Postgres) : Prop :=
  ∀ n serverid, ∀ def_ ∈ (env.foreignServer n serverid).options,
    def_.defname = "keep_connections" → (pg.defGetBoolean def_.arg).isSome = true

/-- The error of an option that is no Boolean value. -/
def BadOption (pg : Postgres) (env : Environment) (e : PgError) : Prop :=
  e.sqlerrcode = .syntaxError ∧ ¬env.OptionsValid pg

section

variable {pg : Postgres} {env : Environment} {key : ConnCacheKey} {E : PgError → Prop}

theorem checkReturn_raisesOnly {sqlerrcode : SqlState} {rc : SqlReturn}
    (hrc : sqlSucceeded rc = true) : Proc.RaisesOnly E (checkReturn env key sqlerrcode rc) := by
  rw [checkReturn, if_pos hrc]
  exact Proc.RaisesOnly.pure _

theorem tbCall_raisesOnly (hok : env.AllOk) (call : SqlCall) :
    Proc.RaisesOnly E (tbCall env key call) := by
  intro w e w' h
  rw [tbCall] at h
  rcases Proc.bind_eq_raise.mp h with hraise | ⟨rc, w₁, hissue, hraise⟩
  · cases hraise
  · cases hissue
    exact checkReturn_raisesOnly (hok _) _ _ _ hraise

theorem tbSqlAllocHandle_raisesOnly (hok : env.AllOk) {handleType : HandleType}
    {inputHandle : Handle} {store : Handle → Fdw Unit}
    (hstore : ∀ h, Proc.RaisesOnly E (store h)) :
    Proc.RaisesOnly E (tbSqlAllocHandle env key handleType inputHandle store) := by
  intro w e w' h
  rw [tbSqlAllocHandle] at h
  rcases Proc.bind_eq_raise.mp h with hraise | ⟨r, w₁, halloc, h⟩
  · cases hraise
  have hrc : sqlSucceeded r.1 = true := by
    rw [sqlAllocHandle, Proc.read_bind_run] at halloc
    cases halloc
    exact hok _
  refine Proc.RaisesOnly.bind (hstore _) (fun _ => ?_) _ _ _ h
  exact Proc.RaisesOnly.bind (checkReturn_raisesOnly hrc) fun _ => Proc.RaisesOnly.pure _

theorem tbSqlFetch_raisesOnly (hok : env.AllOk) (tbStmt : TbStatement) :
    Proc.RaisesOnly E (tbSqlFetch env tbStmt) := by
  intro w e w' h
  rw [tbSqlFetch] at h
  rcases Proc.bind_eq_raise.mp h with hraise | ⟨r, w₁, hfetch, h⟩
  · rw [sqlFetch] at hraise
    split_ifs at hraise
  dsimp only at h
  split_ifs at h with hdata
  · cases h
  have hrc : sqlSucceeded r.1 = true := by
    rw [sqlFetch] at hfetch
    split_ifs at hfetch <;> cases hfetch
    · exact hok _
    · exact (hdata rfl).elim
    · exact hok _
  exact Proc.RaisesOnly.bind (checkReturn_raisesOnly hrc) (fun _ => Proc.RaisesOnly.pure _) _ _ _ h

theorem beginRemoteXact_raisesOnly (hok : env.AllOk) (tbStmt : TbStatement)
    (isSerializable : Bool) : Proc.RaisesOnly E (beginRemoteXact env tbStmt isSerializable) := by
  refine Proc.RaisesOnly.bind (Proc.RaisesOnly.read_bind fun w => tbCall_raisesOnly hok _) ?_
  intro _
  exact Proc.RaisesOnly.bind (tbCall_raisesOnly hok _) fun _ => Proc.RaisesOnly.modify _

theorem disconnectTbServer_raisesOnly (hok : env.AllOk) :
    Proc.RaisesOnly E (disconnectTbServer env key) := by
  refine Proc.RaisesOnly.read_bind fun w => Proc.RaisesOnly.when ?_
  refine Proc.RaisesOnly.bind (Proc.RaisesOnly.read_bind fun w => tbCall_raisesOnly hok _) ?_
  intro _
  refine Proc.RaisesOnly.bind (tbCall_raisesOnly hok _) fun _ => ?_
  exact Proc.RaisesOnly.bind (tbCall_raisesOnly hok _) fun _ => Proc.RaisesOnly.modify _

theorem connectTbServer_raisesOnly (hok : env.AllOk) (params : ConnParams) :
    Proc.RaisesOnly E (connectTbServer env key params) := by
  refine Proc.RaisesOnly.bind (tbSqlAllocHandle_raisesOnly hok fun _ => Proc.RaisesOnly.modify _) ?_
  intro henv
  refine Proc.RaisesOnly.bind (Proc.RaisesOnly.read_bind fun w => tbCall_raisesOnly hok _) ?_
  intro _
  refine Proc.RaisesOnly.bind (tbSqlAllocHandle_raisesOnly hok fun _ => Proc.RaisesOnly.modify _) ?_
  intro hdbc
  refine Proc.RaisesOnly.bind ?_ fun _ => Proc.RaisesOnly.modify _
  intro w e w' h
  rw [tbSqlDriverConnect, Proc.read_bind_run] at h
  rcases Proc.bind_eq_raise.mp h with hraise | ⟨rc, w₁, hissue, hraise⟩
  · cases hraise
  · cases hissue
    exact checkReturn_raisesOnly (hok _) _ _ _ hraise

/-- The loop over the options stops at one that is no Boolean value. -/
theorem applyConnectionOptions_raise {options : List DefElem} {params : ConnParams} {w w' : World}
    {e : PgError} (h : applyConnectionOptions pg key options params w = .raise e w') :
    e.sqlerrcode = .syntaxError ∧ ∃ def_ ∈ options, def_.defname = "keep_connections" ∧
      pg.defGetBoolean def_.arg = none := by
  induction options generalizing params w with
  | nil => cases h
  | cons def_ rest ih =>
    rcases Proc.bind_eq_raise.mp h with hraise | ⟨params₁, w₁, -, hraise⟩
    · rw [applyConnectionOption] at hraise
      split_ifs at hraise with hhost hport hdbname hkeep
      · cases hraise
      · cases hraise
      · cases hraise
      · rcases hb : pg.defGetBoolean def_.arg with _ | keep
        · rw [hb] at hraise
          cases hraise
          exact ⟨rfl, def_, List.mem_cons_self .., hkeep, hb⟩
        · rw [hb] at hraise
          cases hraise
      · cases hraise
    · obtain ⟨hcode, bad, hmem, hbad⟩ := ih hraise
      exact ⟨hcode, bad, List.mem_cons_of_mem _ hmem, hbad⟩

theorem invalCallbacks_raisesOnly (l : List (CacheId × Nat)) :
    Proc.RaisesOnly E
      (Proc.forEach l fun (cacheid, hashvalue) => tbfdwInvalCallback cacheid hashvalue) :=
  Proc.RaisesOnly.forEach fun _ => Proc.RaisesOnly.bind (Proc.RaisesOnly.modify _) fun _ =>
    Proc.RaisesOnly.bind (Proc.RaisesOnly.modify _) fun _ => Proc.RaisesOnly.modify _

theorem getForeignServer_raisesOnly (serverid : Oid) :
    Proc.RaisesOnly E (getForeignServer env serverid) :=
  Proc.RaisesOnly.read_bind fun _ => Proc.RaisesOnly.bind (Proc.RaisesOnly.modify _) fun _ =>
    Proc.RaisesOnly.bind (invalCallbacks_raisesOnly _) fun _ => Proc.RaisesOnly.pure _

theorem makeTbConnection_raisesOnly (hok : env.AllOk) (user : UserMapping) :
    Proc.RaisesOnly (BadOption pg env) (makeTbConnection pg env key user) := by
  intro w e w' h
  rw [makeTbConnection] at h
  rcases Proc.bind_eq_raise.mp h with hraise | ⟨server, w₁, hserver, h⟩
  · exact getForeignServer_raisesOnly _ _ _ _ hraise
  rcases Proc.bind_eq_raise.mp h with hraise | ⟨_, w₂, -, h⟩
  · cases hraise
  rcases Proc.bind_eq_raise.mp h with hraise | ⟨params, w₃, -, h⟩
  · obtain ⟨hcode, bad, hmem, hname, hbad⟩ := applyConnectionOptions_raise hraise
    refine ⟨hcode, fun hvalid => ?_⟩
    have hserver' : ∃ n, server = env.foreignServer n user.serverid := by
      rw [getForeignServer, Proc.read_bind_run, Proc.modify_bind_run] at hserver
      obtain ⟨_, w₄, -, hserver⟩ := Proc.bind_eq_ok.mp hserver
      cases hserver
      exact ⟨_, rfl⟩
    obtain ⟨n, rfl⟩ := hserver'
    have := hvalid n user.serverid bad hmem hname
    rw [hbad] at this
    cases this
  · exact connectTbServer_raisesOnly hok _ _ _ _ h

theorem ensureConnection_raisesOnly (hok : env.AllOk) (user : UserMapping) :
    Proc.RaisesOnly (BadOption pg env) (ensureConnection pg env key user) := by
  refine Proc.RaisesOnly.read_bind fun w => Proc.RaisesOnly.bind
    (Proc.RaisesOnly.when (disconnectTbServer_raisesOnly hok)) fun _ => ?_
  exact Proc.RaisesOnly.read_bind fun _ =>
    Proc.RaisesOnly.when (makeTbConnection_raisesOnly hok user)

theorem allocStatement_raisesOnly (hok : env.AllOk) (tbStmt : TbStatement) :
    Proc.RaisesOnly E (allocStatement env tbStmt) :=
  Proc.RaisesOnly.read_bind fun _ => Proc.RaisesOnly.bind
    (tbSqlAllocHandle_raisesOnly hok fun _ => Proc.RaisesOnly.pure _)
    fun _ => Proc.RaisesOnly.pure _

theorem storeTsn_raisesOnly (batch : List Row) : Proc.RaisesOnly E (storeTsn key batch) := by
  unfold storeTsn
  split
  · exact Proc.RaisesOnly.modify _
  · exact Proc.RaisesOnly.pure _

theorem fetchTsn_raisesOnly (hok : env.AllOk) (tbStmt : TbStatement) :
    Proc.RaisesOnly E (fetchTsn env tbStmt) := by
  refine Proc.RaisesOnly.bind (tbCall_raisesOnly hok _) fun _ => ?_
  refine Proc.RaisesOnly.bind (tbCall_raisesOnly hok _) fun _ => ?_
  refine Proc.RaisesOnly.bind (tbSqlFetch_raisesOnly hok _) fun r => ?_
  refine Proc.RaisesOnly.bind (storeTsn_raisesOnly r.1) fun _ => ?_
  exact Proc.RaisesOnly.bind (tbCall_raisesOnly hok _) fun _ => Proc.RaisesOnly.modify _

theorem openStatement_raisesOnly (hok : env.AllOk) (tbStmt : TbStatement) (useFbQuery : Bool) :
    Proc.RaisesOnly E (openStatement env tbStmt useFbQuery) := by
  refine Proc.RaisesOnly.bind (allocStatement_raisesOnly hok tbStmt) fun stmt => ?_
  refine Proc.RaisesOnly.read_bind fun w => Proc.RaisesOnly.bind
    (Proc.RaisesOnly.when (beginRemoteXact_raisesOnly hok _ _)) fun _ => ?_
  refine Proc.RaisesOnly.read_bind fun w => Proc.RaisesOnly.bind
    (Proc.RaisesOnly.when (fetchTsn_raisesOnly hok _)) fun _ => ?_
  exact Proc.RaisesOnly.read_bind fun _ => Proc.RaisesOnly.pure _

theorem tryTbStatement_raisesOnly (hok : env.AllOk) (user : UserMapping) (tbStmt : TbStatement)
    (useFbQuery : Bool) :
    Proc.RaisesOnly (BadOption pg env) (tryTbStatement pg env user tbStmt useFbQuery) :=
  Proc.RaisesOnly.bind (ensureConnection_raisesOnly hok user) fun _ =>
    openStatement_raisesOnly hok tbStmt useFbQuery

/-- **`get_tb_statement` raises no driver error**: the handler of its `PG_TRY`
block has nothing to swallow. -/
theorem getTbStatement_raisesOnly (hok : env.AllOk) (user : UserMapping) (tbStmt : TbStatement)
    (useFbQuery : Bool) :
    Proc.RaisesOnly (BadOption pg env) (getTbStatement pg env user tbStmt useFbQuery) := by
  refine Proc.RaisesOnly.bind (Proc.RaisesOnly.modify _) fun _ =>
    Proc.RaisesOnly.bind (Proc.RaisesOnly.modify _) fun _ => ?_
  intro w e w' h
  rcases htry : tryTbStatement pg env user { tbStmt with conn := user.umid } useFbQuery w with
    ⟨stmt, w₁⟩ | ⟨err, w₁⟩
  · rw [Proc.onError_of_ok htry] at h
    cases h
  · have hbad := tryTbStatement_raisesOnly hok _ _ _ _ _ _ htry
    have hcode : err.sqlerrcode ≠ .fdwError := by
      rw [hbad.1]
      decide
    rw [Proc.onError_of_raise htry, if_neg hcode] at h
    cases h
    exact hbad

theorem endRemoteXact_raisesOnly (hok : env.AllOk) (completionType : CompletionType) :
    Proc.RaisesOnly E (endRemoteXact env key completionType) := by
  refine Proc.RaisesOnly.read_bind fun w => Proc.RaisesOnly.when (Proc.RaisesOnly.bind ?_ ?_)
  · exact Proc.RaisesOnly.read_bind fun w => Proc.RaisesOnly.bind (tbCall_raisesOnly hok _) fun _ =>
      Proc.RaisesOnly.modify _
  · exact fun _ => Proc.RaisesOnly.read_bind fun w =>
      Proc.RaisesOnly.when (disconnectTbServer_raisesOnly hok)

theorem xactCallbackEntry_raisesOnly (hok : env.AllOk) (event : XactEvent) :
    Proc.RaisesOnly E (xactCallbackEntry env event key) := by
  refine Proc.RaisesOnly.read_bind fun w => Proc.RaisesOnly.when ?_
  cases event with
  | preCommit | parallelPreCommit => exact endRemoteXact_raisesOnly hok .commit
  | prePrepare | commit | parallelCommit | prepare => exact Proc.RaisesOnly.pure _
  | abort | parallelAbort =>
    dsimp only
    split_ifs
    · exact Proc.RaisesOnly.modify _
    · exact endRemoteXact_raisesOnly hok .rollback

theorem tbfdwXactCallback_raisesOnly (hok : env.AllOk) (event : XactEvent) :
    Proc.RaisesOnly E (tbfdwXactCallback env event) := by
  refine Proc.RaisesOnly.read_bind fun w => Proc.RaisesOnly.when ?_
  refine Proc.RaisesOnly.bind (Proc.RaisesOnly.modify _) fun _ => ?_
  refine Proc.RaisesOnly.bind
    (Proc.RaisesOnly.forEach fun _ => xactCallbackEntry_raisesOnly hok event) fun _ => ?_
  exact Proc.RaisesOnly.bind (Proc.RaisesOnly.modify _) fun _ => Proc.RaisesOnly.modify _

theorem tbSqlExecute_raisesOnly (hok : env.AllOk) (tbStmt : TbStatement) :
    Proc.RaisesOnly E (tbSqlExecute env tbStmt) := by
  intro w e w' h
  rw [tbSqlExecute, sqlExecute] at h
  rcases Proc.bind_eq_raise.mp h with hraise | ⟨rc, w₁, hissue, h⟩
  · cases hraise
  · cases hissue
    exact Proc.RaisesOnly.bind (checkReturn_raisesOnly (hok _))
      (fun _ => Proc.RaisesOnly.pure _) _ _ _ h

end

end TiberoFdw
