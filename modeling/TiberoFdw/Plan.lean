import TiberoFdw.Render

/-!
# Planning a scan

`tiberoGetForeignRelSize` classifies the restriction clauses and collects the
attributes to fetch; `tiberoGetForeignPlan` distributes the scan clauses over
the remote and the local conditions and writes the remote SQL. The second one
decides clause by clause, by identity with the clauses the first one has
classified.
-/

namespace TiberoFdw

/-! ## Attributes of expressions -/

mutual

/-- `pull_varattnos`: the attributes of a relation that occur in an expression,
offset so that they are members of an attribute set. -/
def pullVarattnos (varno : Nat) : Node → Bitmapset
  | .var v =>
    if v.varno = varno ∧ v.varlevelsup = 0 then [v.varattno - firstLowInvalidHeapAttributeNumber]
    else []
  | .const _ => []
  | .param _ => []
  | .funcExpr _ _ _ args => pullVarattnosList varno args
  | .opExpr _ _ _ args => pullVarattnosList varno args
  | .distinctExpr _ _ _ args => pullVarattnosList varno args
  | .boolExpr args => pullVarattnosList varno args
  | .nullTest arg => pullVarattnos varno arg
  | .arrayExpr _ elements => pullVarattnosList varno elements
  | .list elements => pullVarattnosList varno elements
  | .aggref _ _ args => pullVarattnosList varno args
  | .other _ args => pullVarattnosList varno args

/-- The attributes in a list of arguments. -/
def pullVarattnosList (varno : Nat) : List Node → Bitmapset
  | [] => []
  | e :: rest => pullVarattnos varno e ++ pullVarattnosList varno rest

end

/-! ## Options -/

/-- `TbFdwRelationInfo`, without the cost estimates. -/
structure TbFdwRelationInfo where
  pushdownSafe : Bool
  remoteConds : List RestrictInfo
  localConds : List RestrictInfo
  attrsUsed : Bitmapset
  useRemoteEstimate : Bool
  fetchSize : Int
  useFbQuery : Bool
  useSleepOnSig : Bool
  updatable : Bool

/-- The fetch size without an option. -/
def defaultFdwFetchSize : Int := 100

/-- `defGetBoolean` of an option. -/
def Postgres.optionBoolean (pg : Postgres) (def_ : DefElem) : Except PgError Bool :=
  match pg.defGetBoolean def_.arg with
  | some b => .ok b
  | none => .error ⟨.syntaxError, def_.defname ++ " requires a Boolean value"⟩

/-- `parse_int` into a variable, with the result ignored: a failure stores 0. -/
def Postgres.storeInt (pg : Postgres) (text : Text) : Int := (pg.parseInt text).getD 0

/-- One turn of the loop of `apply_server_options`. -/
def applyServerOption (pg : Postgres) (fpinfo : TbFdwRelationInfo) (def_ : DefElem) :
    Except PgError TbFdwRelationInfo :=
  if def_.defname = "use_remote_estimate" then .ok { fpinfo with useRemoteEstimate := false }
  else if def_.defname = "fetch_size" then .ok { fpinfo with fetchSize := pg.storeInt def_.arg }
  else if def_.defname = "use_fb_query" then do
    let b ← pg.optionBoolean def_
    .ok { fpinfo with useFbQuery := b }
  else if def_.defname = "use_sleep_on_sig" then do
    let b ← pg.optionBoolean def_
    .ok { fpinfo with useSleepOnSig := b }
  else if def_.defname = "updatable" then do
    let b ← pg.optionBoolean def_
    .ok { fpinfo with updatable := b }
  else .ok fpinfo

/-- `apply_server_options`: the options in their order, so that the last one of a name counts. -/
def applyServerOptions (pg : Postgres) (options : List DefElem) (fpinfo : TbFdwRelationInfo) :
    Except PgError TbFdwRelationInfo :=
  options.foldlM (applyServerOption pg) fpinfo

/-- One turn of the loop of `apply_table_options`. -/
def applyTableOption (pg : Postgres) (fpinfo : TbFdwRelationInfo) (def_ : DefElem) :
    Except PgError TbFdwRelationInfo :=
  if def_.defname = "use_remote_estimate" then .ok { fpinfo with useRemoteEstimate := false }
  else if def_.defname = "fetch_size" then .ok { fpinfo with fetchSize := pg.storeInt def_.arg }
  else if def_.defname = "updatable" then do
    let b ← pg.optionBoolean def_
    .ok { fpinfo with updatable := b }
  else .ok fpinfo

/-- `apply_table_options`; it has no branch for `use_fb_query`. -/
def applyTableOptions (pg : Postgres) (options : List DefElem) (fpinfo : TbFdwRelationInfo) :
    Except PgError TbFdwRelationInfo :=
  options.foldlM (applyTableOption pg) fpinfo

/-! ## The callbacks -/

/-- The settings before any option is applied. -/
def TbFdwRelationInfo.default : TbFdwRelationInfo where
  pushdownSafe := true
  remoteConds := []
  localConds := []
  attrsUsed := []
  useRemoteEstimate := false
  fetchSize := defaultFdwFetchSize
  useFbQuery := false
  useSleepOnSig := false
  updatable := false

/-- `tiberoGetForeignRelSize`, up to the cost estimates. -/
def tiberoGetForeignRelSize (pg : Postgres) (server : ForeignServer) (tableOptions : List DefElem)
    (baserel : RelOptInfo) : Except PgError TbFdwRelationInfo := do
  let fpinfo ← applyServerOptions pg server.options TbFdwRelationInfo.default
  let fpinfo ← applyTableOptions pg tableOptions fpinfo
  let (remoteConds, localConds) := classifyConditions pg baserel baserel.baserestrictinfo
  let attrsUsed := localConds.foldl
    (fun attrsUsed rinfo => attrsUsed ++ pullVarattnos baserel.relid rinfo.clause)
    (pullVarattnosList baserel.relid baserel.targetExprs)
  .ok { fpinfo with remoteConds, localConds, attrsUsed }

/-- `list_member_ptr`. -/
def listMemberPtr (l : List RestrictInfo) (rinfo : RestrictInfo) : Bool :=
  l.any (·.address == rinfo.address)

/-- The plan node of a foreign scan, with the contents of its `fdw_private`. -/
structure ForeignScan where
  selectSql : Text
  retrievedAttrs : List Int
  fetchSize : Int
  useFbQuery : Bool
  /-- the conditions the executor checks -/
  localExprs : List Node
  fdwRecheckQuals : List Node

/-- One turn of the loop of `tiberoGetForeignPlan` over the scan clauses. -/
def distributeClause (pg : Postgres) (foreignrel : RelOptInfo) (fpinfo : TbFdwRelationInfo)
    (exprs : List Node × List Node) (rinfo : RestrictInfo) : List Node × List Node :=
  let (remoteExprs, localExprs) := exprs
  if rinfo.pseudoconstant then (remoteExprs, localExprs)
  else if listMemberPtr fpinfo.remoteConds rinfo then (remoteExprs ++ [rinfo.clause], localExprs)
  else if listMemberPtr fpinfo.localConds rinfo then (remoteExprs, localExprs ++ [rinfo.clause])
  else if exprInspectShippability pg foreignrel rinfo.clause then
    (remoteExprs ++ [rinfo.clause], localExprs)
  else (remoteExprs, localExprs ++ [rinfo.clause])

/-- `tiberoGetForeignPlan`. -/
def tiberoGetForeignPlan (pg : Postgres) (root : PlannerInfo) (foreignrel : RelOptInfo)
    (fpinfo : TbFdwRelationInfo) (isolationUsesXactSnapshot : Bool)
    (scanClauses : List RestrictInfo) : Except DeparseError ForeignScan :=
  if foreignrel.isSimpleRel then
    let (remoteExprs, localExprs) :=
      scanClauses.foldl (distributeClause pg foreignrel fpinfo) ([], [])
    let context := selectContext pg root foreignrel fpinfo.useFbQuery isolationUsesXactSnapshot
    match deparseSelectStmtForRel context fpinfo.attrsUsed remoteExprs RemoteSqlInfo.start with
    | .ok retrievedAttrs s =>
      .ok {
        selectSql := s.buf
        retrievedAttrs
        fetchSize := fpinfo.fetchSize
        useFbQuery := fpinfo.useFbQuery
        localExprs
        fdwRecheckQuals := remoteExprs }
    | .raise err _ => .error err
  else .error .assertion

/-! ## The distribution of the clauses -/

/-- Clauses of one list are told apart by their addresses. -/
def AddressesIdentify (clauses : List RestrictInfo) : Prop :=
  ∀ a ∈ clauses, ∀ b ∈ clauses, a.address = b.address → a = b

theorem listMemberPtr_iff {clauses l : List RestrictInfo} {rinfo : RestrictInfo}
    (haddr : AddressesIdentify clauses) (hl : ∀ a ∈ l, a ∈ clauses) (hri : rinfo ∈ clauses) :
    listMemberPtr l rinfo = true ↔ rinfo ∈ l := by
  simp only [listMemberPtr, List.any_eq_true, beq_iff_eq]
  constructor
  · rintro ⟨a, ha, heq⟩
    rw [← haddr a (hl a ha) rinfo hri heq]
    exact ha
  · exact fun h => ⟨rinfo, h, rfl⟩

section

variable {pg : Postgres} {baserel : RelOptInfo} {fpinfo : TbFdwRelationInfo}

/-- The planner information after the size estimation. -/
structure Classified (pg : Postgres) (baserel : RelOptInfo) (fpinfo : TbFdwRelationInfo) :
    Prop where
  remoteConds : fpinfo.remoteConds = (classifyConditions pg baserel baserel.baserestrictinfo).1
  localConds : fpinfo.localConds = (classifyConditions pg baserel baserel.baserestrictinfo).2
  attrsUsed : fpinfo.attrsUsed = pullVarattnosList baserel.relid baserel.targetExprs ++
    (fpinfo.localConds.map fun rinfo => pullVarattnos baserel.relid rinfo.clause).flatten

theorem getForeignRelSize_classified {server : ForeignServer} {tableOptions : List DefElem}
    (hsize : tiberoGetForeignRelSize pg server tableOptions baserel = .ok fpinfo) :
    Classified pg baserel fpinfo := by
  have hfold : ∀ (l : List RestrictInfo) (init : Bitmapset),
      l.foldl (fun attrsUsed rinfo => attrsUsed ++ pullVarattnos baserel.relid rinfo.clause) init =
        init ++ (l.map fun rinfo => pullVarattnos baserel.relid rinfo.clause).flatten := by
    intro l
    induction l with
    | nil => simp
    | cons rinfo rest ih =>
      intro init
      rw [List.foldl_cons, ih]
      simp
  rw [tiberoGetForeignRelSize] at hsize
  rcases hserver :
      applyServerOptions pg server.options TbFdwRelationInfo.default with e | afterServer
  · rw [hserver] at hsize
    cases hsize
  rcases htable : applyTableOptions pg tableOptions afterServer with e | afterTable
  · rw [hserver] at hsize
    change (applyTableOptions pg tableOptions afterServer >>= _) = _ at hsize
    rw [htable] at hsize
    cases hsize
  rw [hserver] at hsize
  change (applyTableOptions pg tableOptions afterServer >>= _) = _ at hsize
  rw [htable] at hsize
  cases hsize
  exact ⟨rfl, rfl, hfold _ _⟩

/-- One clause of the relation goes to the side where the classification has
put it. -/
theorem distributeClause_eq (hclass : Classified pg baserel fpinfo)
    (haddr : AddressesIdentify baserel.baserestrictinfo) {rinfo : RestrictInfo}
    (hri : rinfo ∈ baserel.baserestrictinfo) (exprs : List Node × List Node) :
    distributeClause pg baserel fpinfo exprs rinfo =
      if rinfo.pseudoconstant then exprs
      else if listMemberPtr fpinfo.remoteConds rinfo then (exprs.1 ++ [rinfo.clause], exprs.2)
      else (exprs.1, exprs.2 ++ [rinfo.clause]) := by
  rw [distributeClause]
  by_cases hpseudo : rinfo.pseudoconstant = true
  · rw [if_pos hpseudo, if_pos hpseudo]
  rw [if_neg hpseudo, if_neg hpseudo]
  by_cases hremote : listMemberPtr fpinfo.remoteConds rinfo = true
  · rw [if_pos hremote, if_pos hremote]
  rw [if_neg hremote, if_neg hremote]
  have hlocal : listMemberPtr fpinfo.localConds rinfo = true := by
    rw [listMemberPtr_iff haddr (fun a ha => ?_) hri, hclass.localConds, mem_localConds]
    · rw [listMemberPtr_iff haddr (fun a ha => ?_) hri, hclass.remoteConds, mem_remoteConds]
        at hremote
      · refine ⟨hri, ?_⟩
        by_contra hship
        exact hremote ⟨hri, by simpa using hship⟩
      · rw [hclass.remoteConds, mem_remoteConds] at ha
        exact ha.1
    · rw [hclass.localConds, mem_localConds] at ha
      exact ha.1
  rw [if_pos hlocal]

/-- **The distribution**: the remote conditions are the clauses that were
classified remote, the local ones the others, both in the given order and
without the pseudoconstant ones. -/
theorem distribute_eq (hclass : Classified pg baserel fpinfo)
    (haddr : AddressesIdentify baserel.baserestrictinfo) (scanClauses : List RestrictInfo)
    (hmem : ∀ rinfo ∈ scanClauses, rinfo ∈ baserel.baserestrictinfo)
    (exprs : List Node × List Node) :
    scanClauses.foldl (distributeClause pg baserel fpinfo) exprs =
      (exprs.1 ++ (scanClauses.filter fun rinfo =>
          !rinfo.pseudoconstant && listMemberPtr fpinfo.remoteConds rinfo).map (·.clause),
        exprs.2 ++ (scanClauses.filter fun rinfo =>
          !rinfo.pseudoconstant && !listMemberPtr fpinfo.remoteConds rinfo).map (·.clause)) := by
  induction scanClauses generalizing exprs with
  | nil => simp
  | cons rinfo rest ih =>
    rw [List.foldl_cons, ih (fun r hr => hmem r (List.mem_cons_of_mem _ hr)),
      distributeClause_eq hclass haddr (hmem rinfo (List.mem_cons_self ..))]
    cases hpseudo : rinfo.pseudoconstant <;>
      cases hremote : listMemberPtr fpinfo.remoteConds rinfo <;> simp [hpseudo, hremote]

end

/-! ## The remote conditions in the text -/

/-- When the conditions are written, each of them has a text. -/
theorem conditions_have_texts {context : DeparseContext} {baserel : RelOptInfo}
    (hbase : context.OnBaseRel baserel) {exprs : List Node}
    (hship : ∀ e ∈ exprs, Shippable context.pg baserel.inspectionRelids e) {isFirst : Bool}
    {s s' : RemoteSqlInfo} (hs : 0 ≤ s.pdepth)
    (hrun : appendConditionsLoop context exprs isFirst s = .ok () s') :
    ∃ texts, List.Forall₂ (fun e t => exprText context e = some t) exprs texts ∧
      List.Forall₂ (fun e t => Renders (deparseExpr context e) (some t)) exprs texts := by
  induction exprs generalizing isFirst s with
  | nil => exact ⟨[], .nil, .nil⟩
  | cons e rest ih =>
    have hrenders : Renders (deparseExpr context e) (exprText context e) := by
      have hshipList : ShippableList context.pg baserel.inspectionRelids [e] :=
        ⟨hship e (List.mem_cons_self ..), trivial⟩
      have h := renders_exprs hbase [e] hshipList
      rw [deparseExprs, deparseExprs, exprTexts, exprTexts] at h
      cases h with
      | cons h _ => exact h
    rw [appendConditionsLoop] at hrun
    obtain ⟨_, s₁, hsep, hrun⟩ := Proc.bind_eq_ok.mp hrun
    obtain ⟨_, s₂, hopen, hrun⟩ := Proc.bind_eq_ok.mp hrun
    obtain ⟨_, s₃, hexpr, hrun⟩ := Proc.bind_eq_ok.mp hrun
    obtain ⟨_, s₄, hclose, hrun⟩ := Proc.bind_eq_ok.mp hrun
    have hs₁ : 0 ≤ s₁.pdepth := by
      cases isFirst <;> cases hsep <;> exact hs
    have hs₂ : 0 < s₂.pdepth := by
      cases hopen
      change 0 < s₁.pdepth + 1
      omega
    rcases htext : exprText context e with _ | text
    · rw [htext] at hrenders
      obtain ⟨err, s'', hraise⟩ := hrenders s₂ (Int.le_of_lt hs₂)
      rw [hraise] at hexpr
      cases hexpr
    · rw [htext] at hrenders
      rw [hrenders s₂ (Int.le_of_lt hs₂)] at hexpr
      cases hexpr
      rw [rendersClosing_close { s₂ with buf := s₂.buf ++ text } hs₂] at hclose
      cases hclose
      have hs₄ : 0 ≤ s₂.pdepth - 1 := by omega
      obtain ⟨texts, htexts, hrest⟩ :=
        ih (fun e' he' => hship e' (List.mem_cons_of_mem _ he')) hs₄ hrun
      exact ⟨text :: texts, .cons htext htexts, .cons hrenders hrest⟩

/-- When the statement is written, each of its conditions has a text. -/
theorem select_have_texts {context : DeparseContext} {baserel : RelOptInfo}
    (hbase : context.OnBaseRel baserel) {attrsUsed : Bitmapset} {exprs : List Node}
    (hship : ∀ e ∈ exprs, Shippable context.pg baserel.inspectionRelids e)
    {retrievedAttrs : List Int} {s' : RemoteSqlInfo}
    (hrun : deparseSelectStmtForRel context attrsUsed exprs RemoteSqlInfo.start =
      .ok retrievedAttrs s') :
    ∃ texts, List.Forall₂ (fun e t => exprText context e = some t) exprs texts ∧
      List.Forall₂ (fun e t => Renders (deparseExpr context e) (some t)) exprs texts := by
  cases exprs with
  | nil => exact ⟨[], .nil, .nil⟩
  | cons e rest =>
    rw [deparseSelectStmtForRel] at hrun
    obtain ⟨_, s₁, hassert, hrun⟩ := Proc.bind_eq_ok.mp hrun
    obtain ⟨_, s₂, hselect, hrun⟩ := Proc.bind_eq_ok.mp hrun
    obtain ⟨attrs, s₃, htarget, hrun⟩ := Proc.bind_eq_ok.mp hrun
    obtain ⟨_, s₄, hfrom, hrun⟩ := Proc.bind_eq_ok.mp hrun
    have hs₁ : s₁ = RemoteSqlInfo.start := by
      rw [hbase.foreignrel, hbase.simple] at hassert
      cases hassert
      rfl
    subst hs₁
    cases hselect
    rw [deparseTargetList_run _ _ _ _ _ (Int.le_refl 0)] at htarget
    cases htarget
    rw [deparseFromExpr] at hfrom
    obtain ⟨_, s₅, hkeyword, hfrom⟩ := Proc.bind_eq_ok.mp hfrom
    obtain ⟨_, s₆, hrelation, hfrom⟩ := Proc.bind_eq_ok.mp hfrom
    obtain ⟨_, s₇, halias, hwhere⟩ := Proc.bind_eq_ok.mp hfrom
    obtain ⟨_, s₈, hword, hloop⟩ := Proc.bind_eq_ok.mp hwhere
    cases hkeyword
    rw [renders_relation _ _ _ _ (Int.le_refl 0)] at hrelation
    cases hrelation
    have hs₇ : 0 ≤ s₇.pdepth := by
      by_cases hlen : 1 < context.scanrel.relids.length
      · simp only [hlen, decide_true, Proc.when_true] at halias
        cases halias
        exact Int.le_refl 0
      · simp only [hlen, decide_false, Proc.when_false] at halias
        cases halias
        exact Int.le_refl 0
    cases hword
    have hs₈ : 0 ≤ ({ s₇ with buf := s₇.buf ++ " WHERE ".toList } : RemoteSqlInfo).pdepth := hs₇
    exact conditions_have_texts hbase hship hs₈ hloop

/-! ## Columns -/

/-- The immediate subexpressions. -/
def Node.children : Node → List Node
  | .var _ => []
  | .const _ => []
  | .param _ => []
  | .funcExpr _ _ _ args => args
  | .opExpr _ _ _ args => args
  | .distinctExpr _ _ _ args => args
  | .boolExpr args => args
  | .nullTest arg => [arg]
  | .arrayExpr _ elements => elements
  | .list elements => elements
  | .aggref _ _ args => args
  | .other _ args => args

/-- The variable occurs in the expression. -/
inductive OccursIn (v : Var) : Node → Prop where
  | here : OccursIn v (.var v)
  | child {e c : Node} : c ∈ e.children → OccursIn v c → OccursIn v e

/-- The expression uses the column: by itself, or through a whole-row reference. -/
def UsesColumn (relid : Nat) (attnum : Int) (e : Node) : Prop :=
  ∃ v, OccursIn v e ∧ v.varno = relid ∧ v.varlevelsup = 0 ∧
    (v.varattno = attnum ∨ v.varattno = 0)

theorem mem_pullVarattnosList {varno : Nat} {x : Int} {l : List Node} :
    x ∈ pullVarattnosList varno l ↔ ∃ e ∈ l, x ∈ pullVarattnos varno e := by
  induction l with
  | nil => simp [pullVarattnosList]
  | cons e rest ih => simp [pullVarattnosList, ih]

theorem mem_pullVarattnos_of_child {varno : Nat} {x : Int} {e c : Node} (hc : c ∈ e.children)
    (hx : x ∈ pullVarattnos varno c) : x ∈ pullVarattnos varno e := by
  cases e with
  | var => cases hc
  | const => cases hc
  | param => cases hc
  | nullTest arg =>
    rw [pullVarattnos]
    rw [List.mem_singleton.mp hc] at hx
    exact hx
  | _ =>
    rw [pullVarattnos]
    exact mem_pullVarattnosList.mpr ⟨c, hc, hx⟩

/-- `pull_varattnos` finds every attribute that occurs. -/
theorem mem_pullVarattnos_of_occursIn {v : Var} {e : Node} (h : OccursIn v e)
    (hlevel : v.varlevelsup = 0) :
    v.varattno - firstLowInvalidHeapAttributeNumber ∈ pullVarattnos v.varno e := by
  induction h with
  | here => simp [pullVarattnos, hlevel]
  | child hc _ ih => exact mem_pullVarattnos_of_child hc ih

/-- A column that is used by an expression whose attributes are collected is
fetched. -/
theorem mem_targetAttrs_of_usesColumn {rel : Relation} {relid a : Nat} {attr : FormPgAttribute}
    {attrsUsed : Bitmapset} {e : Node} (ha : 1 ≤ a) (hattr : rel.tupdesc[a - 1]? = some attr)
    (hdrop : attr.attisdropped = false) (huses : UsesColumn relid a e)
    (hsub : ∀ x ∈ pullVarattnos relid e, x ∈ attrsUsed) :
    (a : Int) ∈ targetAttrs rel attrsUsed := by
  obtain ⟨v, hoccurs, hno, hlevel, hv⟩ := huses
  have hmem := hsub _ (hno ▸ mem_pullVarattnos_of_occursIn hoccurs hlevel)
  have hfetched : isFetched attrsUsed attr a = true := by
    rw [isFetched, hdrop]
    simp only [Bool.not_false, Bool.true_and, Bool.or_eq_true, bmsIsMember, decide_eq_true_eq]
    rcases hv with hv | hv
    · rw [hv] at hmem
      exact .inr hmem
    · rw [hv] at hmem
      exact .inl hmem
  have hin : a ∈ fetchedAttrs attrsUsed rel := mem_fetchedFrom.mpr ⟨ha, attr, hattr, hfetched⟩
  exact List.mem_append_left _ (List.mem_map_of_mem hin)

/-! ## The plan -/

/-- The clause was classified remote and is not pseudoconstant. -/
def goesRemote (fpinfo : TbFdwRelationInfo) (rinfo : RestrictInfo) : Bool :=
  !rinfo.pseudoconstant && listMemberPtr fpinfo.remoteConds rinfo

/-- The clause was not classified remote and is not pseudoconstant. -/
def staysLocal (fpinfo : TbFdwRelationInfo) (rinfo : RestrictInfo) : Bool :=
  !rinfo.pseudoconstant && !listMemberPtr fpinfo.remoteConds rinfo

/-- Every scan clause is checked once and has its inputs: the remote conditions
and the local ones are the scan clauses of either kind in the given order, the
statement has the remote conditions and no others, and the columns that the
local side uses are fetched. -/
structure KeepsQuals (pg : Postgres) (root : PlannerInfo) (baserel : RelOptInfo)
    (fpinfo : TbFdwRelationInfo) (isolationUsesXactSnapshot : Bool)
    (scanClauses : List RestrictInfo) (plan : ForeignScan) : Prop where
  verdict : ∀ rinfo ∈ scanClauses, listMemberPtr fpinfo.remoteConds rinfo = true ↔
    rinfo ∈ (classifyConditions pg baserel baserel.baserestrictinfo).1
  remote : plan.fdwRecheckQuals = (scanClauses.filter (goesRemote fpinfo)).map (·.clause)
  localExprs : plan.localExprs = (scanClauses.filter (staysLocal fpinfo)).map (·.clause)
  selectSql : ∃ texts,
    List.Forall₂ (fun e t => exprText (selectContext pg root baserel fpinfo.useFbQuery
      isolationUsesXactSnapshot) e = some t) plan.fdwRecheckQuals texts ∧
    plan.selectSql = selectText (selectContext pg root baserel fpinfo.useFbQuery
      isolationUsesXactSnapshot) fpinfo.attrsUsed texts
  columns : ∀ (a : Nat) attr e, 1 ≤ a →
    (root.rtFetch baserel.relid).tupdesc[a - 1]? = some attr → attr.attisdropped = false →
    e ∈ plan.localExprs ++ baserel.targetExprs → UsesColumn baserel.relid a e →
    (a : Int) ∈ plan.retrievedAttrs

/-- **The two planning phases together**: no qualifier is lost, checked twice or
starved of its columns. Every scan clause that is not a pseudoconstant is either in the text or
checked by the executor, and the columns that the executor reads are fetched. -/
theorem getForeignPlan_keepsQuals {pg : Postgres} {root : PlannerInfo} {baserel : RelOptInfo}
    {server : ForeignServer} {tableOptions : List DefElem} {fpinfo : TbFdwRelationInfo}
    {isolationUsesXactSnapshot : Bool} {scanClauses : List RestrictInfo} {plan : ForeignScan}
    (haddr : AddressesIdentify baserel.baserestrictinfo)
    (hmem : ∀ rinfo ∈ scanClauses, rinfo ∈ baserel.baserestrictinfo)
    (hsize : tiberoGetForeignRelSize pg server tableOptions baserel = .ok fpinfo)
    (hplan : tiberoGetForeignPlan pg root baserel fpinfo isolationUsesXactSnapshot scanClauses =
      .ok plan) :
    KeepsQuals pg root baserel fpinfo isolationUsesXactSnapshot scanClauses plan := by
  have hclass := getForeignRelSize_classified hsize
  have hremoteConds : ∀ a ∈ fpinfo.remoteConds, a ∈ baserel.baserestrictinfo := by
    intro a ha
    rw [hclass.remoteConds, mem_remoteConds] at ha
    exact ha.1
  -- clauses are compared by address, so the classification is found again
  have hverdict : ∀ rinfo ∈ scanClauses, listMemberPtr fpinfo.remoteConds rinfo = true ↔
      rinfo ∈ (classifyConditions pg baserel baserel.baserestrictinfo).1 := by
    intro rinfo hri
    rw [listMemberPtr_iff haddr hremoteConds (hmem rinfo hri), hclass.remoteConds]
  rw [tiberoGetForeignPlan] at hplan
  by_cases hsimple : baserel.isSimpleRel = true
  swap
  · rw [if_neg hsimple] at hplan
    cases hplan
  rw [if_pos hsimple, distribute_eq hclass haddr scanClauses hmem] at hplan
  simp only [List.nil_append] at hplan
  change (match deparseSelectStmtForRel _ _ ((scanClauses.filter (goesRemote fpinfo)).map
    (·.clause)) _ with | .ok _ _ => _ | .raise _ _ => _) = _ at hplan
  have hbase := selectContext_onBaseRel pg root hsimple fpinfo.useFbQuery isolationUsesXactSnapshot
  -- what goes to the remote side has passed the inspector
  have hship : ∀ e ∈ (scanClauses.filter (goesRemote fpinfo)).map (·.clause),
      Shippable pg baserel.inspectionRelids e := by
    intro e he
    obtain ⟨rinfo, hri, rfl⟩ := List.mem_map.mp he
    obtain ⟨hscan, hgoes⟩ := List.mem_filter.mp hri
    rw [goesRemote, Bool.and_eq_true, hverdict rinfo hscan, mem_remoteConds] at hgoes
    exact exprInspectShippability_eq_true_iff.mp hgoes.2.2
  rcases hrun : deparseSelectStmtForRel (selectContext pg root baserel fpinfo.useFbQuery
    isolationUsesXactSnapshot) fpinfo.attrsUsed ((scanClauses.filter (goesRemote fpinfo)).map
    (·.clause)) RemoteSqlInfo.start with ⟨retrievedAttrs, s⟩ | ⟨err, s⟩
  swap
  · rw [hrun] at hplan
    cases hplan
  obtain ⟨texts, htexts, hrenders⟩ := select_have_texts hbase hship hrun
  have hselect := deparseSelectStmtForRel_run hbase fpinfo.attrsUsed hrenders
  rw [hselect] at hplan
  cases hplan
  refine ⟨hverdict, rfl, rfl, ⟨texts, htexts, rfl⟩, ?_⟩
  intro a attr e ha hattr hdrop he huses
  refine mem_targetAttrs_of_usesColumn ha hattr hdrop huses fun x hx => ?_
  rw [hclass.attrsUsed]
  rcases List.mem_append.mp he with he | he
  · -- a local clause is among the clauses whose attributes were collected
    obtain ⟨rinfo, hri, rfl⟩ := List.mem_map.mp he
    obtain ⟨hscan, hstays⟩ := List.mem_filter.mp hri
    simp only [Bool.and_eq_true, Bool.not_eq_true'] at hstays
    have hlocal : rinfo ∈ fpinfo.localConds := by
      rw [hclass.localConds, mem_localConds]
      refine ⟨hmem rinfo hscan, ?_⟩
      by_contra hship
      have hremote := (hverdict rinfo hscan).mpr
        (mem_remoteConds.mpr ⟨hmem rinfo hscan, by simpa using hship⟩)
      rw [hremote] at hstays
      exact absurd hstays.2 (by simp)
    exact List.mem_append_right _
      (List.mem_flatten.mpr ⟨_, List.mem_map.mpr ⟨rinfo, hlocal, rfl⟩, hx⟩)
  · exact List.mem_append_left _ (mem_pullVarattnosList.mpr ⟨e, he, hx⟩)

/-- A scan with a condition that is shipped, one that is not, and a
pseudoconstant one. -/
def threeConditions : RelOptInfo :=
  { RelOptInfo.scanOfTable with
    baserestrictinfo := [
      ⟨1, .boolExpr [textCondition 98 "x"], false⟩,
      ⟨2, textCondition 98 "x", false⟩,
      ⟨3, .const ⟨BOOLOID, invalidOid, .word 1, false⟩, true⟩] }

/-- Both planning phases succeed on that scan. -/
theorem threeConditions_keepsQuals :
    ∃ fpinfo plan,
      tiberoGetForeignRelSize Postgres.small ⟨1, []⟩ [] threeConditions = .ok fpinfo ∧
      tiberoGetForeignPlan Postgres.small ⟨fun _ => textTable⟩ threeConditions fpinfo false
        threeConditions.baserestrictinfo = .ok plan ∧
      KeepsQuals Postgres.small ⟨fun _ => textTable⟩ threeConditions fpinfo false
        threeConditions.baserestrictinfo plan := by
  have haddr : AddressesIdentify threeConditions.baserestrictinfo := by
    intro a ha b hb heq
    simp only [threeConditions, List.mem_cons, List.not_mem_nil, or_false] at ha hb
    rcases ha with rfl | rfl | rfl <;> rcases hb with rfl | rfl | rfl <;>
      first | rfl | exact absurd heq (by decide)
  have hsize : tiberoGetForeignRelSize Postgres.small ⟨1, []⟩ [] threeConditions = .ok _ := rfl
  exact ⟨_, _, hsize, rfl, getForeignPlan_keepsQuals haddr (fun _ h => h) hsize rfl⟩

end TiberoFdw
