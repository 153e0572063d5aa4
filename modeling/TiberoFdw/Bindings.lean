import TiberoFdw.OneEntry
import TiberoFdw.OutputFunctions
import TiberoFdw.Scan

/-!
# What the start of a scan binds

`tiberoBeginForeignScan` opens a statement, and binds to it the buffer of the
snapshot or nothing. Nothing else it does touches a parameter or a cache entry.
-/

namespace TiberoFdw

/-- The statement has those parameters; the rest is as it was. -/
structure ScanBinds (hstmt : Handle) (params : List (Nat × ParamSource)) (w w' : World) : Prop where
  params : (w'.stmts hstmt).params = params
  conn : w'.conn = w.conn
  isolation : w'.isolationUsesXactSnapshot = w.isolationUsesXactSnapshot

section

variable {pg : Postgres} {env : Environment} {w w₁ w' : World} {hstmt : Handle}
  {params : List (Nat × ParamSource)} {key : ConnCacheKey}

/-- A call that binds nothing. -/
theorem ScanBinds.tbCall (h : ScanBinds hstmt params w w₁) {call : SqlCall} {u : Unit}
    (hcall : call.rebinds = false) (hrun : tbCall env key call w₁ = .ok u w') :
    ScanBinds hstmt params w w' := by
  obtain ⟨-, rfl⟩ := tbCall_eq_ok.mp hrun
  exact ⟨by rw [World.called_params hcall, h.params], h.conn, h.isolation⟩

theorem getTbTypeMaxStrSize_ok {type : Int} {colSize size : Nat}
    (h : getTbTypeMaxStrSize env key type colSize w = .ok size w') : w' = w := by
  rw [getTbTypeMaxStrSize] at h
  rcases hsize : maxStrSize type colSize with _ | res <;> rw [hsize] at h
  · obtain ⟨_, _, hreport, -⟩ := Proc.bind_eq_ok.mp h
    obtain ⟨w₁, hraise⟩ := tbFdwReportError_raises env w key .fdwError
      ("tbcli datatype error (" ++ toString type ++ ")")
    rw [hraise] at hreport
    cases hreport
  · cases h
    rfl

theorem ScanBinds.describeCol (h : ScanBinds hstmt params w w₁) {tbStmt : TbStatement} {colNo : Nat}
    {r : Int × Nat} (hrun : tbSqlDescribeCol env tbStmt colNo w₁ = .ok r w') :
    ScanBinds hstmt params w w' := by
  rw [tbSqlDescribeCol, Proc.read_bind_run] at hrun
  obtain ⟨_, w₂, hcall, hrun⟩ := Proc.bind_eq_ok.mp hrun
  obtain ⟨size, w₃, hsize, hrun⟩ := Proc.bind_eq_ok.mp hrun
  cases hrun
  rw [getTbTypeMaxStrSize_ok hsize]
  exact h.tbCall rfl hcall

theorem ScanBinds.describeColumns {tbStmt : TbStatement} {l : List Nat} {table : List TbColumn}
    (h : ScanBinds hstmt params w w₁) (hrun : describeColumns env tbStmt l w₁ = .ok table w') :
    ScanBinds hstmt params w w' := by
  induction l generalizing w₁ table with
  | nil =>
    cases hrun
    exact h
  | cons i rest ih =>
    obtain ⟨r, w₂, hone, hrun⟩ := Proc.bind_eq_ok.mp hrun
    obtain ⟨columns, w₃, hrest, hrun⟩ := Proc.bind_eq_ok.mp hrun
    cases hrun
    exact ih (h.describeCol hone) hrest

theorem ScanBinds.bindCols {tbStmt : TbStatement} {l : List Nat} {u : Unit}
    (h : ScanBinds hstmt params w w₁)
    (hrun : Proc.forEach l (fun i => tbSqlBindCol env tbStmt (i + 1)) w₁ = .ok u w') :
    ScanBinds hstmt params w w' := by
  induction l generalizing w₁ with
  | nil =>
    cases hrun
    exact h
  | cons i rest ih =>
    obtain ⟨_, w₂, hone, hrun⟩ := Proc.bind_eq_ok.mp hrun
    exact ih (h.tbCall rfl hone) hrun

/-- A statement that was handed out has no parameters yet. -/
theorem getTbStatement_unbound {user : UserMapping} {tbStmt stmt : TbStatement} {useFbQuery : Bool}
    (h : getTbStatement pg env user tbStmt useFbQuery w = .ok stmt w') :
    (w'.stmts stmt.hstmt).params = [] := by
  rcases getTbStatement_ok h with htry | ⟨_, _, -, -, hretry⟩
  · obtain ⟨_, -, hopened⟩ := tryTbStatement_ok htry
    exact hopened.unbound
  · obtain ⟨_, -, hopened⟩ := retryTbStatement_ok hretry
    exact hopened.unbound

/-- A parameter of a known type. -/
theorem ScanBinds.bindParameter (h : ScanBinds hstmt params w w₁) {tbStmt : TbStatement}
    (hhstmt : tbStmt.hstmt = hstmt) {paramNo : Nat} {type : Oid} {t : Int}
    (ht : tbTypeOf type = some t) {source : ParamSource} {u : Unit}
    (hrun : tbSqlBindParameter env tbStmt paramNo type source w₁ = .ok u w') :
    ScanBinds hstmt ((paramNo, source) :: params) w w' := by
  rw [tbSqlBindParameter_known ht] at hrun
  obtain ⟨hrc, rfl⟩ := tbCall_eq_ok.mp hrun
  refine ⟨?_, h.conn, h.isolation⟩
  rw [World.called_stmts hrc, SqlCall.effect, setStmt, if_pos hhstmt.symm, h.params]

/-- **What a scan has bound** when it begins: the buffer of its cache entry, when the
isolation level is one that takes a snapshot for each statement. -/
theorem tiberoBeginForeignScan_bound {rel : Relation} {user : UserMapping} {fsplan : ForeignScan}
    {fsstate : TbFdwScanState}
    (h : tiberoBeginForeignScan pg env rel user false fsplan w = .ok (some fsstate) w') :
    ∃ stmt w₁, getTbStatement pg env user TbStatement.zeroed fsplan.useFbQuery
        { w with useSleepOnSig := true } = .ok stmt w₁ ∧
      fsstate.tbStmt =
        { stmt with resColCnt := fsstate.tbStmt.resColCnt, queryExecuted := false } ∧
      ScanBinds stmt.hstmt
        (if fsplan.useFbQuery && !w₁.isolationUsesXactSnapshot then [(1, .tsn stmt.conn)] else [])
        w₁ w' := by
  rw [tiberoBeginForeignScan, if_neg (by decide), setSleepOnSigOn, Proc.modify_bind_run] at h
  obtain ⟨tbStmt, w₁, hget, h⟩ := Proc.bind_eq_ok.mp h
  obtain ⟨_, w₂, hprepare, h⟩ := Proc.bind_eq_ok.mp h
  obtain ⟨resColCnt, w₃, hcount, h⟩ := Proc.bind_eq_ok.mp h
  obtain ⟨table, w₄, hdescribe, h⟩ := Proc.bind_eq_ok.mp h
  rw [Proc.read_bind_run] at h
  obtain ⟨_, w₅, hbind, h⟩ := Proc.bind_eq_ok.mp h
  obtain ⟨_, w₆, hrows, h⟩ := Proc.bind_eq_ok.mp h
  obtain ⟨_, w₇, hptr, h⟩ := Proc.bind_eq_ok.mp h
  obtain ⟨_, w₈, hcols, h⟩ := Proc.bind_eq_ok.mp h
  cases h
  refine ⟨tbStmt, w₁, hget, rfl, ?_⟩
  -- a new statement has no parameters; each call keeps or adds them
  have hbound₁ : ScanBinds tbStmt.hstmt [] w₁ w₁ := ⟨getTbStatement_unbound hget, rfl, rfl⟩
  have hbound₂ := hbound₁.tbCall rfl hprepare
  have hbound₃ : ScanBinds tbStmt.hstmt [] w₁ w₃ := by
    rw [tbSqlNumResultCols, Proc.read_bind_run] at hcount
    obtain ⟨_, w', hcall, hret⟩ := Proc.bind_eq_ok.mp hcount
    cases hret
    exact hbound₂.tbCall rfl hcall
  have hbound₄ := hbound₃.describeColumns hdescribe
  -- the one parameter of the scan, when the isolation level asks for it
  have hbound₅ : ScanBinds tbStmt.hstmt
      (if fsplan.useFbQuery && !w₁.isolationUsesXactSnapshot then [(1, .tsn tbStmt.conn)] else [])
      w₁ w₅ := by
    rw [hbound₄.isolation] at hbind
    split_ifs with hfb
    · rw [hfb] at hbind
      exact hbound₄.bindParameter rfl rfl hbind
    · rw [Bool.not_eq_true] at hfb
      rw [hfb] at hbind
      cases hbind
      exact hbound₄
  have hbound₈ := ((hbound₅.tbCall rfl hrows).tbCall rfl hptr).bindCols hcols
  exact ⟨hbound₈.params, hbound₈.conn, hbound₈.isolation⟩

end

end TiberoFdw
