import TiberoFdw.Plan

/-!
# Options

The validator of `option.c` and the planner read the same option lists, each
with its own table of names. The validator walks over the options of an object
and looks each one up among the registered ones; `apply_server_options` and
`apply_table_options` compare the names one by one.

What the validator accepts is known (`validateOptions_ok`), and so is what the
planner makes of it (`applyServerOptions_ok`, `applyTableOptions_ok`). The two
agree but for `use_fb_query` of a table, which is accepted and never applied
(`plannerObeys_iff`).
-/

namespace TiberoFdw

/-! ## The validator -/

/-- An error with its hint. -/
structure OptionError extends PgError where
  errhint : Option String
  deriving DecidableEq

/-- An option that is registered for a kind of object. -/
structure TbFdwOption where
  keyword : String
  validate : Postgres → DefElem → Except OptionError Unit
  hidden : Bool
  required : Bool
  configured : Bool

/-- `TB_FDW_OPTION`. -/
def tbFdwOption (keyword : String) (validate : Postgres → DefElem → Except OptionError Unit)
    (hidden required : Bool) : TbFdwOption :=
  ⟨keyword, validate, hidden, required, false⟩

/-- `TB_FDW_MAX_FETCH_SIZE`. -/
def tbFdwMaxFetchSize : Int := 0x7fffffff

/-- An error about the value of an option, without a hint. -/
def invalidValue (msg : String) : Except OptionError Unit :=
  .error ⟨⟨.invalidParameterValue, msg⟩, none⟩

/-- `get_str_value_with_null_check`, with the value ignored. -/
def getStrValueWithNullCheck (_ : Postgres) (def_ : DefElem) : Except OptionError Unit :=
  if def_.arg = [] then invalidValue ("\"" ++ def_.defname ++ "\" requires non-empty value")
  else .ok ()

/-- `get_bool_value_with_null_check`, with the value ignored. -/
def getBoolValueWithNullCheck (pg : Postgres) (def_ : DefElem) : Except OptionError Unit :=
  if def_.arg = [] then invalidValue ("\"" ++ def_.defname ++ "\" requires non-empty value")
  else
    match pg.optionBoolean def_ with
    | .ok _ => .ok ()
    | .error err => .error ⟨err, none⟩

/-- `validate_host_option`. -/
def validateHostOption := getStrValueWithNullCheck

/-- `validate_port_option`: the port is a text that is not empty. -/
def validatePortOption := getStrValueWithNullCheck

/-- `validate_dbname_option`. -/
def validateDbnameOption := getStrValueWithNullCheck

/-- `validate_fetch_size_option`: an integer above zero and below the largest one. -/
def validateFetchSizeOption (pg : Postgres) (def_ : DefElem) : Except OptionError Unit := do
  getStrValueWithNullCheck pg def_
  match pg.parseInt def_.arg with
  | none =>
    invalidValue ("invalid value for integer option \"" ++ def_.defname ++ "\": " ++
      String.ofList def_.arg)
  | some intVal =>
    if intVal ≤ 0 then
      invalidValue ("\"" ++ def_.defname ++ "\" must be an integer value greater than zero")
    else if tbFdwMaxFetchSize ≤ intVal then
      invalidValue ("\"" ++ def_.defname ++ "\" exceeded the maximum value")
    else .ok ()

/-- `validate_username_option`. -/
def validateUsernameOption := getStrValueWithNullCheck

/-- `validate_password_option`. -/
def validatePasswordOption := getStrValueWithNullCheck

/-- `validate_password_required_option`. -/
def validatePasswordRequiredOption := getBoolValueWithNullCheck

/-- `validate_updatable_option`. -/
def validateUpdatableOption := getBoolValueWithNullCheck

/-- `validate_owner_name_option`. -/
def validateOwnerNameOption := getStrValueWithNullCheck

/-- `validate_table_name_option`. -/
def validateTableNameOption := getStrValueWithNullCheck

/-- `validate_use_sleep_on_sig_option`. -/
def validateUseSleepOnSigOption := getBoolValueWithNullCheck

/-- `validate_use_fb_query_option`. -/
def validateUseFbQueryOption := getBoolValueWithNullCheck

/-- `validate_keep_connections_option`. -/
def validateKeepConnectionsOption := getBoolValueWithNullCheck

/-- `validate_column_name_option`. -/
def validateColumnNameOption := getStrValueWithNullCheck

/-- The loop of a hint over the registered options. -/
def keywordsText (registered : List TbFdwOption) : String :=
  ", ".intercalate (registered.map (·.keyword))

/-- `ereport_invalid_option`. -/
def ereportInvalidOption (registered : List TbFdwOption) (optionName : String) : OptionError :=
  ⟨⟨.fdwInvalidOptionName, "invalid option \"" ++ optionName ++ "\""⟩,
    some ("Valid options in this context are: " ++
      keywordsText (registered.filter fun iter => !iter.hidden))⟩

/-- `search_for_option_in_registered`: the registered options, with the one that
was found marked as configured; `none` when there is none. -/
def searchForOptionInRegistered (pg : Postgres) (def_ : DefElem) :
    List TbFdwOption → Except OptionError (Option (List TbFdwOption))
  | [] => .ok none
  | iter :: rest =>
    if def_.defname = iter.keyword then
      match iter.validate pg def_ with
      | .ok _ => .ok (some ({ iter with configured := true } :: rest))
      | .error err => .error err
    else
      match searchForOptionInRegistered pg def_ rest with
      | .ok found => .ok (found.map (iter :: ·))
      | .error err => .error err

/-- `check_sufficient_input_options`. -/
def checkSufficientInputOptions (registered : List TbFdwOption) : Except OptionError Unit :=
  let missing := registered.filter fun iter => iter.required && !iter.configured
  if missing.isEmpty then .ok ()
  else
    .error ⟨⟨.fdwError, "insufficient options"⟩,
      some ("The following required options are missing: " ++ keywordsText missing)⟩

/-- `validate_options`. -/
def validateOptions (pg : Postgres) (registered : List TbFdwOption) :
    List DefElem → Except OptionError Unit
  | [] => checkSufficientInputOptions registered
  | def_ :: rest =>
    match searchForOptionInRegistered pg def_ registered with
    | .ok (some registered) => validateOptions pg registered rest
    | .ok none => .error (ereportInvalidOption registered def_.defname)
    | .error err => .error err

/-- The options of a foreign server; three are required, and four are not named in hints. -/
def foreignServerOptions : List TbFdwOption :=
  [tbFdwOption "host" validateHostOption false true,
    tbFdwOption "port" validatePortOption false true,
    tbFdwOption "dbname" validateDbnameOption false true,
    tbFdwOption "fetch_size" validateFetchSizeOption false false,
    tbFdwOption "use_sleep_on_sig" validateUseSleepOnSigOption true false,
    tbFdwOption "use_fb_query" validateUseFbQueryOption true false,
    tbFdwOption "keep_connections" validateKeepConnectionsOption true false,
    tbFdwOption "updatable" validateUpdatableOption true false]

/-- `validate_foreign_server_options`. -/
def validateForeignServerOptions (pg : Postgres) (options : List DefElem) :
    Except OptionError Unit :=
  validateOptions pg foreignServerOptions options

/-- The options of a foreign table; the name of the remote one is required. -/
def foreignTableOptions : List TbFdwOption :=
  [tbFdwOption "owner_name" validateOwnerNameOption false false,
    tbFdwOption "table_name" validateTableNameOption false true,
    tbFdwOption "fetch_size" validateFetchSizeOption false false,
    tbFdwOption "use_fb_query" validateUseFbQueryOption true false,
    tbFdwOption "updatable" validateUpdatableOption true false]

/-- `validate_foreign_table_options`. -/
def validateForeignTableOptions (pg : Postgres) (options : List DefElem) :
    Except OptionError Unit :=
  validateOptions pg foreignTableOptions options

/-- The options of a user mapping; the name and the password are required. -/
def userMappingOptions : List TbFdwOption :=
  [tbFdwOption "username" validateUsernameOption false true,
    tbFdwOption "password" validatePasswordOption false true,
    tbFdwOption "password_required" validatePasswordRequiredOption true false]

/-- `validate_user_mapping_options`. -/
def validateUserMappingOptions (pg : Postgres) (options : List DefElem) :
    Except OptionError Unit :=
  validateOptions pg userMappingOptions options

/-- The options of a column. -/
def attributeOptions : List TbFdwOption :=
  [tbFdwOption "column_name" validateColumnNameOption false false]

/-- `validate_attribute_options`. -/
def validateAttributeOptions (pg : Postgres) (options : List DefElem) : Except OptionError Unit :=
  validateOptions pg attributeOptions options

/-- The catalogs whose objects have options. -/
inductive TargetObject : Type where
  | foreignServerRelationId
  | foreignTableRelationId
  | userMappingRelationId
  | attributeRelationId
  | foreignDataWrapperRelationId

/-- `tibero_fdw_validator`. -/
def tiberoFdwValidator (pg : Postgres) (options : List DefElem) :
    TargetObject → Except OptionError Unit
  | .foreignServerRelationId => validateForeignServerOptions pg options
  | .foreignTableRelationId => validateForeignTableOptions pg options
  | .userMappingRelationId => validateUserMappingOptions pg options
  | .attributeRelationId => validateAttributeOptions pg options
  | .foreignDataWrapperRelationId => .ok ()

/-! ## What the validator accepts -/

section

variable {pg : Postgres} {registered registered' : List TbFdwOption}

/-- A registered option before and after `def_` was looked up. -/
structure ConfiguredBy (def_ : DefElem) (iter iter' : TbFdwOption) : Prop where
  keyword : iter'.keyword = iter.keyword
  validate : iter'.validate = iter.validate
  required : iter'.required = iter.required
  configured : iter'.configured = true → iter.configured = true ∨ def_.defname = iter.keyword

theorem ConfiguredBy.refl (def_ : DefElem) (iter : TbFdwOption) : ConfiguredBy def_ iter iter :=
  ⟨rfl, rfl, rfl, .inl⟩

/-- The registered options before and after `def_` was looked up. -/
structure MarkedBy (def_ : DefElem) (registered registered' : List TbFdwOption) : Prop where
  after : ∀ iter ∈ registered, ∃ iter' ∈ registered', ConfiguredBy def_ iter iter'
  before : ∀ iter' ∈ registered', ∃ iter ∈ registered, ConfiguredBy def_ iter iter'

theorem MarkedBy.refl (def_ : DefElem) (registered : List TbFdwOption) :
    MarkedBy def_ registered registered :=
  ⟨fun iter hmem => ⟨iter, hmem, ConfiguredBy.refl def_ iter⟩,
    fun iter hmem => ⟨iter, hmem, ConfiguredBy.refl def_ iter⟩⟩

theorem MarkedBy.cons {def_ : DefElem} {iter iter' : TbFdwOption}
    (hiter : ConfiguredBy def_ iter iter') (h : MarkedBy def_ registered registered') :
    MarkedBy def_ (iter :: registered) (iter' :: registered') := by
  constructor
  · intro o ho
    rcases List.mem_cons.mp ho with rfl | ho
    · exact ⟨iter', List.mem_cons_self .., hiter⟩
    · obtain ⟨o', ho', hsame⟩ := h.after o ho
      exact ⟨o', List.mem_cons_of_mem _ ho', hsame⟩
  · intro o' ho'
    rcases List.mem_cons.mp ho' with rfl | ho'
    · exact ⟨iter, List.mem_cons_self .., hiter⟩
    · obtain ⟨o, ho, hsame⟩ := h.before o' ho'
      exact ⟨o, List.mem_cons_of_mem _ ho, hsame⟩

/-- An option that was found is valid, and is the only one that is marked. -/
theorem searchForOptionInRegistered_ok {def_ : DefElem}
    (h : searchForOptionInRegistered pg def_ registered = .ok (some registered')) :
    (∃ iter ∈ registered, iter.keyword = def_.defname ∧ iter.validate pg def_ = .ok ()) ∧
      MarkedBy def_ registered registered' := by
  induction registered generalizing registered' with
  | nil => cases h
  | cons iter rest ih =>
    rw [searchForOptionInRegistered] at h
    -- the first option of that name is validated, and marked when it is valid
    by_cases hname : def_.defname = iter.keyword
    · rw [if_pos hname] at h
      rcases hvalid : iter.validate pg def_ with err | u
      · rw [hvalid] at h
        cases h
      · rw [hvalid] at h
        cases h
        refine ⟨⟨iter, List.mem_cons_self .., hname.symm, hvalid⟩, .cons ?_ (MarkedBy.refl _ _)⟩
        exact ⟨rfl, rfl, rfl, fun _ => .inr hname⟩
    · rw [if_neg hname] at h
      rcases hrest : searchForOptionInRegistered pg def_ rest with err | _ | registered''
      · rw [hrest] at h
        cases h
      · rw [hrest] at h
        cases h
      · rw [hrest] at h
        cases h
        -- the options before it stay as they are
        obtain ⟨⟨found, hmem, hfound⟩, hrest⟩ := ih hrest
        exact ⟨⟨found, List.mem_cons_of_mem _ hmem, hfound⟩, .cons (ConfiguredBy.refl _ _) hrest⟩

theorem checkSufficientInputOptions_ok (h : checkSufficientInputOptions registered = .ok ()) :
    ∀ iter ∈ registered, iter.required = true → iter.configured = true := by
  intro iter hmem hrequired
  rw [checkSufficientInputOptions] at h
  split_ifs at h with hmissing
  have hnone := List.filter_eq_nil_iff.mp (List.isEmpty_iff.mp hmissing) iter hmem
  simpa [hrequired] using hnone

/-- What is accepted: every option is registered and valid, and every required
one is there. -/
structure Accepted (pg : Postgres) (registered : List TbFdwOption) (input : List DefElem) :
    Prop where
  valid : ∀ d ∈ input, ∃ iter ∈ registered, iter.keyword = d.defname ∧ iter.validate pg d = .ok ()
  sufficient : ∀ iter ∈ registered, iter.required = true → iter.configured = true ∨
    ∃ d ∈ input, d.defname = iter.keyword

/-- **The validator**: what it accepts is valid and sufficient. Every option of the list passed its
own check, and the required ones are there. -/
theorem validateOptions_ok {input : List DefElem}
    (h : validateOptions pg registered input = .ok ()) : Accepted pg registered input := by
  induction input generalizing registered with
  | nil =>
    -- at the end the required options have to be marked
    refine ⟨fun d hd => (by cases hd), fun iter hmem hrequired => .inl ?_⟩
    exact checkSufficientInputOptions_ok h iter hmem hrequired
  | cons def_ rest ih =>
    rw [validateOptions] at h
    rcases hsearch : searchForOptionInRegistered pg def_ registered with err | _ | registered'
    · rw [hsearch] at h
      cases h
    · rw [hsearch] at h
      cases h
    · rw [hsearch] at h
      obtain ⟨hvalid, hmarked⟩ := searchForOptionInRegistered_ok hsearch
      have hrest := ih h
      constructor
      · rintro d hd
        rcases List.mem_cons.mp hd with rfl | hd
        · exact hvalid
        · -- the options are registered under the same names before and after
          obtain ⟨iter', hmem', hname, hok⟩ := hrest.valid d hd
          obtain ⟨iter, hmem, hsame⟩ := hmarked.before iter' hmem'
          exact ⟨iter, hmem, hsame.keyword ▸ hname, hsame.validate ▸ hok⟩
      · intro iter hmem hrequired
        obtain ⟨iter', hmem', hsame⟩ := hmarked.after iter hmem
        rcases hrest.sufficient iter' hmem' (hsame.required ▸ hrequired) with hconf | ⟨d, hd, hname⟩
        · exact (hsame.configured hconf).imp_right fun hname =>
            ⟨def_, List.mem_cons_self .., hname⟩
        · exact .inr ⟨d, List.mem_cons_of_mem _ hd, hname.trans hsame.keyword⟩

end

/-! ## What the planner makes of it -/

/-- The value of an option in a list; of several values, the last one. -/
def optionValue (options : List DefElem) (name : String) : Option Text :=
  (options.reverse.find? fun d => d.defname == name).map (·.arg)

theorem optionValue_cons (d : DefElem) (rest : List DefElem) (name : String) :
    optionValue (d :: rest) name =
      (optionValue rest name).or (if d.defname = name then some d.arg else none) := by
  rw [optionValue, optionValue, List.reverse_cons, List.find?_append, List.find?_singleton]
  by_cases hname : d.defname = name
  · rw [if_pos (beq_iff_eq.mpr hname), if_pos hname, Option.map_or]
    rfl
  · rw [if_neg (by simpa using hname), if_neg hname, Option.or_none, Option.or_none]

section

variable {α : Type} {read : Text → Option α} {name : String} {old mid new : α}

/-- The options change a setting from `old` to `new`. -/
def Sets (read : Text → Option α) (options : List DefElem) (name : String) (old new : α) : Prop :=
  (optionValue options name).elim (some old) read = some new

/-- One option changes a setting from `old` to `new`. -/
def SetsOne (read : Text → Option α) (d : DefElem) (name : String) (old new : α) : Prop :=
  if d.defname = name then read d.arg = some new else new = old

theorem Sets.nil (read : Text → Option α) (name : String) (a : α) : Sets read [] name a a := rfl

theorem Sets.cons {d : DefElem} {rest : List DefElem} (hd : SetsOne read d name old mid)
    (h : Sets read rest name mid new) : Sets read (d :: rest) name old new := by
  rw [Sets, optionValue_cons]
  rw [Sets] at h
  rcases hrest : optionValue rest name with _ | text
  · rw [hrest] at h
    cases h
    by_cases hname : d.defname = name
    · rw [SetsOne, if_pos hname] at hd
      rw [if_pos hname]
      exact hd
    · rw [SetsOne, if_neg hname] at hd
      rw [if_neg hname, hd]
      rfl
  · rw [hrest] at h
    exact h

/-- The table options come after the server options. -/
theorem Sets.table {server table : List DefElem} (hserver : Sets read server name old mid)
    (htable : Sets read table name mid new) :
    ((optionValue table name).or (optionValue server name)).elim (some old) read = some new := by
  rw [Sets] at hserver htable
  rcases htext : optionValue table name with _ | text
  · rw [htext] at htable
    cases htable
    exact hserver
  · rw [htext] at htable
    exact htable

end

section

variable {pg : Postgres} {d : DefElem} {options : List DefElem} {fpinfo fpinfo' : TbFdwRelationInfo}

theorem getBoolValueWithNullCheck_ok {u : Unit} (h : getBoolValueWithNullCheck pg d = .ok u) :
    ∃ b, pg.defGetBoolean d.arg = some b := by
  rw [getBoolValueWithNullCheck, Postgres.optionBoolean] at h
  split_ifs at h
  · cases h
  · rcases hb : pg.defGetBoolean d.arg with _ | b
    · rw [hb] at h
      cases h
    · exact ⟨b, rfl⟩

theorem validateFetchSizeOption_ok {u : Unit} (h : validateFetchSizeOption pg d = .ok u) :
    ∃ n, pg.parseInt d.arg = some n ∧ 0 < n ∧ n < tbFdwMaxFetchSize := by
  rw [validateFetchSizeOption] at h
  rcases hempty : getStrValueWithNullCheck pg d with err | u
  · rw [hempty] at h
    cases h
  · rw [hempty] at h
    change (match pg.parseInt d.arg with
      | none => _
      | some intVal => _) = _ at h
    rcases hint : pg.parseInt d.arg with _ | n
    · rw [hint] at h
      cases h
    · rw [hint] at h
      dsimp only at h
      split_ifs at h with hpos hmax
      · cases h
      · cases h
      · exact ⟨n, rfl, by omega, by omega⟩

/-- What the planner reads an option as, when it is one of those the planner uses. -/
structure Readable (pg : Postgres) (d : DefElem) : Prop where
  fetchSize : d.defname = "fetch_size" →
    ∃ n, pg.parseInt d.arg = some n ∧ 0 < n ∧ n < tbFdwMaxFetchSize
  boolean : d.defname ∈ ["use_fb_query", "use_sleep_on_sig", "updatable"] →
    ∃ b, pg.defGetBoolean d.arg = some b

theorem Readable.of_server {iter : TbFdwOption} (hmem : iter ∈ foreignServerOptions)
    (hname : iter.keyword = d.defname) (hok : iter.validate pg d = .ok ()) : Readable pg d := by
  constructor
  · intro hfetch
    rw [hfetch] at hname
    simp only [foreignServerOptions, List.mem_cons, List.not_mem_nil, or_false] at hmem
    rcases hmem with rfl | rfl | rfl | rfl | rfl | rfl | rfl | rfl <;>
      first | exact validateFetchSizeOption_ok hok | exact absurd hname (by decide)
  · intro hbool
    rw [← hname] at hbool
    simp only [foreignServerOptions, List.mem_cons, List.not_mem_nil, or_false] at hmem
    rcases hmem with rfl | rfl | rfl | rfl | rfl | rfl | rfl | rfl <;>
      first | exact getBoolValueWithNullCheck_ok hok | exact absurd hbool (by decide)

theorem Readable.of_table {iter : TbFdwOption} (hmem : iter ∈ foreignTableOptions)
    (hname : iter.keyword = d.defname) (hok : iter.validate pg d = .ok ()) : Readable pg d := by
  constructor
  · intro hfetch
    rw [hfetch] at hname
    simp only [foreignTableOptions, List.mem_cons, List.not_mem_nil, or_false] at hmem
    rcases hmem with rfl | rfl | rfl | rfl | rfl <;>
      first | exact validateFetchSizeOption_ok hok | exact absurd hname (by decide)
  · intro hbool
    rw [← hname] at hbool
    simp only [foreignTableOptions, List.mem_cons, List.not_mem_nil, or_false] at hmem
    rcases hmem with rfl | rfl | rfl | rfl | rfl <;>
      first | exact getBoolValueWithNullCheck_ok hok | exact absurd hbool (by decide)

theorem Readable.optionBoolean (h : Readable pg d)
    (hname : d.defname ∈ ["use_fb_query", "use_sleep_on_sig", "updatable"]) :
    ∃ b, pg.optionBoolean d = .ok b ∧ pg.defGetBoolean d.arg = some b := by
  obtain ⟨b, hb⟩ := h.boolean hname
  exact ⟨b, by rw [Postgres.optionBoolean, hb], hb⟩

theorem Readable.storeInt (h : Readable pg d) (hname : d.defname = "fetch_size") :
    pg.parseInt d.arg = some (pg.storeInt d.arg) := by
  obtain ⟨n, hn, -⟩ := h.fetchSize hname
  rw [Postgres.storeInt, hn, Option.getD_some]

/-- One server option. -/
theorem applyServerOption_ok (h : Readable pg d) (fpinfo : TbFdwRelationInfo) :
    ∃ fpinfo', applyServerOption pg fpinfo d = .ok fpinfo' ∧
      SetsOne pg.parseInt d "fetch_size" fpinfo.fetchSize fpinfo'.fetchSize ∧
      SetsOne pg.defGetBoolean d "use_fb_query" fpinfo.useFbQuery fpinfo'.useFbQuery ∧
      SetsOne pg.defGetBoolean d "updatable" fpinfo.updatable fpinfo'.updatable := by
  rw [applyServerOption]
  split_ifs with hestimate hfetch hfb hsleep hupdatable
  · refine ⟨_, rfl, ?_⟩
    simp [SetsOne, hestimate]
  · refine ⟨_, rfl, ?_⟩
    simp [SetsOne, hfetch, h.storeInt hfetch]
  · obtain ⟨b, hok, hb⟩ := h.optionBoolean (by simp [hfb])
    refine ⟨_, by rw [hok]; rfl, ?_⟩
    simp [SetsOne, hfb, hb]
  · obtain ⟨b, hok, hb⟩ := h.optionBoolean (by simp [hsleep])
    refine ⟨_, by rw [hok]; rfl, ?_⟩
    simp [SetsOne, hsleep]
  · obtain ⟨b, hok, hb⟩ := h.optionBoolean (by simp [hupdatable])
    refine ⟨_, by rw [hok]; rfl, ?_⟩
    simp [SetsOne, hupdatable, hb]
  · refine ⟨_, rfl, ?_⟩
    simp [SetsOne, hfetch, hfb, hupdatable]

/-- One table option. -/
theorem applyTableOption_ok (h : Readable pg d) (fpinfo : TbFdwRelationInfo) :
    ∃ fpinfo', applyTableOption pg fpinfo d = .ok fpinfo' ∧
      SetsOne pg.parseInt d "fetch_size" fpinfo.fetchSize fpinfo'.fetchSize ∧
      fpinfo'.useFbQuery = fpinfo.useFbQuery ∧
      SetsOne pg.defGetBoolean d "updatable" fpinfo.updatable fpinfo'.updatable := by
  rw [applyTableOption]
  split_ifs with hestimate hfetch hupdatable
  · refine ⟨_, rfl, ?_⟩
    simp [SetsOne, hestimate]
  · refine ⟨_, rfl, ?_⟩
    simp [SetsOne, hfetch, h.storeInt hfetch]
  · obtain ⟨b, hok, hb⟩ := h.optionBoolean (by simp [hupdatable])
    refine ⟨_, by rw [hok]; rfl, ?_⟩
    simp [SetsOne, hupdatable, hb]
  · refine ⟨_, rfl, ?_⟩
    simp [SetsOne, hfetch, hupdatable]

/-- The server options set all three settings. -/
theorem applyServerOptions_ok (h : ∀ d ∈ options, Readable pg d) (fpinfo : TbFdwRelationInfo) :
    ∃ fpinfo', applyServerOptions pg options fpinfo = .ok fpinfo' ∧
      Sets pg.parseInt options "fetch_size" fpinfo.fetchSize fpinfo'.fetchSize ∧
      Sets pg.defGetBoolean options "use_fb_query" fpinfo.useFbQuery fpinfo'.useFbQuery ∧
      Sets pg.defGetBoolean options "updatable" fpinfo.updatable fpinfo'.updatable := by
  induction options generalizing fpinfo with
  | nil => exact ⟨fpinfo, rfl, Sets.nil .., Sets.nil .., Sets.nil ..⟩
  | cons d rest ih =>
    obtain ⟨fpinfo₁, hone, hfetch, hfb, hupdatable⟩ :=
      applyServerOption_ok (h d (List.mem_cons_self ..)) fpinfo
    obtain ⟨fpinfo₂, hrest, hfetch', hfb', hupdatable'⟩ :=
      ih (fun d' hd' => h d' (List.mem_cons_of_mem _ hd')) fpinfo₁
    refine ⟨fpinfo₂, ?_, .cons hfetch hfetch', .cons hfb hfb', .cons hupdatable hupdatable'⟩
    rw [applyServerOptions, List.foldlM_cons, hone]
    exact hrest

/-- The table options set two of them; `use_fb_query` has no branch. -/
theorem applyTableOptions_ok (h : ∀ d ∈ options, Readable pg d) (fpinfo : TbFdwRelationInfo) :
    ∃ fpinfo', applyTableOptions pg options fpinfo = .ok fpinfo' ∧
      Sets pg.parseInt options "fetch_size" fpinfo.fetchSize fpinfo'.fetchSize ∧
      fpinfo'.useFbQuery = fpinfo.useFbQuery ∧
      Sets pg.defGetBoolean options "updatable" fpinfo.updatable fpinfo'.updatable := by
  induction options generalizing fpinfo with
  | nil => exact ⟨fpinfo, rfl, Sets.nil .., rfl, Sets.nil ..⟩
  | cons d rest ih =>
    obtain ⟨fpinfo₁, hone, hfetch, hfb, hupdatable⟩ :=
      applyTableOption_ok (h d (List.mem_cons_self ..)) fpinfo
    obtain ⟨fpinfo₂, hrest, hfetch', hfb', hupdatable'⟩ :=
      ih (fun d' hd' => h d' (List.mem_cons_of_mem _ hd')) fpinfo₁
    refine ⟨fpinfo₂, ?_, .cons hfetch hfetch', hfb'.trans hfb, .cons hupdatable hupdatable'⟩
    rw [applyTableOptions, List.foldlM_cons, hone]
    exact hrest

end

/-! ## Precedence -/

/-- The value of an option: the table's, otherwise the server's. -/
def effectiveValue (server table : List DefElem) (name : String) : Option Text :=
  (optionValue table name).or (optionValue server name)

/-- Every setting has the value of its option, otherwise its default. -/
structure OptionsTakeEffect (pg : Postgres) (server table : List DefElem)
    (fpinfo : TbFdwRelationInfo) : Prop where
  fetchSize : (effectiveValue server table "fetch_size").elim (some defaultFdwFetchSize)
    pg.parseInt = some fpinfo.fetchSize
  useFbQuery : (effectiveValue server table "use_fb_query").elim (some false)
    pg.defGetBoolean = some fpinfo.useFbQuery
  updatable : (effectiveValue server table "updatable").elim (some false)
    pg.defGetBoolean = some fpinfo.updatable
  /-- the size of a batch is positive and below the largest `int32` -/
  bounds : 1 ≤ fpinfo.fetchSize ∧ fpinfo.fetchSize ≤ tbFdwMaxFetchSize - 1

/-- The planner applies the options of both levels, and they take effect. -/
def PlannerObeys (pg : Postgres) (server table : List DefElem) : Prop :=
  ∃ afterServer fpinfo,
    applyServerOptions pg server TbFdwRelationInfo.default = .ok afterServer ∧
      applyTableOptions pg table afterServer = .ok fpinfo ∧
      OptionsTakeEffect pg server table fpinfo

/-- The size of a batch after both levels. -/
theorem fetchSize_bounds {pg : Postgres} {server table : List DefElem} {n : Int}
    (hserver : ∀ d ∈ server, Readable pg d) (htable : ∀ d ∈ table, Readable pg d)
    (h : (effectiveValue server table "fetch_size").elim (some defaultFdwFetchSize)
      pg.parseInt = some n) : 1 ≤ n ∧ n ≤ tbFdwMaxFetchSize - 1 := by
  -- a value that was accepted is in bounds, whichever level it is from
  have hvalue : ∀ options : List DefElem, (∀ d ∈ options, Readable pg d) →
      ∀ text, optionValue options "fetch_size" = some text →
        ∃ n, pg.parseInt text = some n ∧ 0 < n ∧ n < tbFdwMaxFetchSize := by
    intro options hreadable text htext
    obtain ⟨d, hfind, rfl⟩ := Option.map_eq_some_iff.mp htext
    have hname := List.find?_some hfind
    have hmem := List.mem_of_find?_eq_some hfind
    exact (hreadable d (List.mem_reverse.mp hmem)).fetchSize (by simpa using hname)
  rw [effectiveValue] at h
  rcases htext : optionValue table "fetch_size" with _ | text
  · rw [htext, Option.none_or] at h
    rcases htext' : optionValue server "fetch_size" with _ | text'
    · -- neither level sets the size
      rw [htext'] at h
      cases h
      decide
    · obtain ⟨n', hn', hpos, hlt⟩ := hvalue server hserver text' htext'
      rw [htext', Option.elim_some, hn'] at h
      cases h
      omega
  · -- the table overrides the server
    obtain ⟨n', hn', hpos, hlt⟩ := hvalue table htable text htext
    rw [htext, Option.some_or, Option.elim_some, hn'] at h
    cases h
    omega

section

variable {pg : Postgres} {server table : List DefElem}

theorem readable_of_server
    (h : tiberoFdwValidator pg server .foreignServerRelationId = .ok ()) :
    ∀ d ∈ server, Readable pg d := by
  intro d hd
  obtain ⟨iter, hmem, hname, hok⟩ := (validateOptions_ok h).valid d hd
  exact .of_server hmem hname hok

theorem readable_of_table (h : tiberoFdwValidator pg table .foreignTableRelationId = .ok ()) :
    ∀ d ∈ table, Readable pg d := by
  intro d hd
  obtain ⟨iter, hmem, hname, hok⟩ := (validateOptions_ok h).valid d hd
  exact .of_table hmem hname hok

/-- A table that sets `use_fb_query` repeats what the server gives. -/
def RepeatsFbQuery (pg : Postgres) (server table : List DefElem) : Prop :=
  ∀ text, optionValue table "use_fb_query" = some text →
    pg.defGetBoolean text =
      (optionValue server "use_fb_query").elim (some false) pg.defGetBoolean

theorem PlannerObeys.repeats (hserver : ∀ d ∈ server, Readable pg d)
    (htable : ∀ d ∈ table, Readable pg d) (h : PlannerObeys pg server table) :
    RepeatsFbQuery pg server table := by
  rintro text htext
  obtain ⟨afterServer, fpinfo, hs, ht, heffect⟩ := h
  obtain ⟨_, hrun, -, hfb, -⟩ := applyServerOptions_ok hserver TbFdwRelationInfo.default
  cases hrun.symm.trans hs
  obtain ⟨_, hrun', -, hfb', -⟩ := applyTableOptions_ok htable afterServer
  cases hrun'.symm.trans ht
  -- what takes effect is the table's value, and what is stored is the server's
  have hvalue := heffect.useFbQuery
  rw [effectiveValue, htext, Option.some_or, Option.elim_some, hfb'] at hvalue
  exact hvalue.trans hfb.symm

/-- **Precedence**: the accepted options of both levels take effect exactly when
a table that sets `use_fb_query` repeats what the server gives. The other options of a table
override those of the server; this one is accepted for a table and never read. -/
theorem plannerObeys_iff
    (hserver : tiberoFdwValidator pg server .foreignServerRelationId = .ok ())
    (htable : tiberoFdwValidator pg table .foreignTableRelationId = .ok ()) :
    PlannerObeys pg server table ↔ RepeatsFbQuery pg server table := by
  have hserver' := readable_of_server hserver
  have htable' := readable_of_table htable
  refine ⟨PlannerObeys.repeats hserver' htable', fun hsame => ?_⟩
  obtain ⟨afterServer, hrun, hfetch, hfb, hupdatable⟩ :=
    applyServerOptions_ok hserver' TbFdwRelationInfo.default
  obtain ⟨fpinfo, hrun', hfetch', hfb', hupdatable'⟩ := applyTableOptions_ok htable' afterServer
  refine ⟨afterServer, fpinfo, hrun, hrun', Sets.table hfetch hfetch', ?_,
    Sets.table hupdatable hupdatable', ?_⟩
  · rw [effectiveValue, hfb', ← hfb]
    rcases htext : optionValue table "use_fb_query" with _ | text
    · rfl
    · exact hsame text htext
  · exact fetchSize_bounds hserver' htable' (Sets.table hfetch hfetch')

end

/-! ## The commands that are allowed -/

/-- One turn of the loops of `tiberoIsForeignRelUpdatable`. -/
def readUpdatable (pg : Postgres) (updatable : Bool) (def_ : DefElem) : Except PgError Bool :=
  if def_.defname = "updatable" then pg.optionBoolean def_ else .ok updatable

/-- The bit of `CMD_INSERT`. -/
def insertAllowed : Nat := 1 <<< 3

/-- `tiberoIsForeignRelUpdatable`: the mask of the commands that are allowed. -/
def tiberoIsForeignRelUpdatable (pg : Postgres) (server : ForeignServer)
    (tableOptions : List DefElem) : Except PgError Nat := do
  let updatable ← server.options.foldlM (readUpdatable pg) false
  let updatable ← tableOptions.foldlM (readUpdatable pg) updatable
  .ok (if updatable then insertAllowed else 0)

section

variable {pg : Postgres} {d : DefElem} {fpinfo fpinfo' : TbFdwRelationInfo}

theorem applyServerOption_updatable (h : applyServerOption pg fpinfo d = .ok fpinfo') :
    readUpdatable pg fpinfo.updatable d = .ok fpinfo'.updatable := by
  rw [applyServerOption] at h
  rw [readUpdatable]
  by_cases hupdatable : d.defname = "updatable"
  · simp only [hupdatable, String.reduceEq, if_false, if_true] at h ⊢
    rcases hbool : pg.optionBoolean d with e | b <;> rw [hbool] at h <;> cases h
    rfl
  · rw [if_neg hupdatable] at h ⊢
    split_ifs at h
    · cases h
      rfl
    · cases h
      rfl
    · rcases hbool : pg.optionBoolean d with e | b <;> rw [hbool] at h <;> cases h
      rfl
    · rcases hbool : pg.optionBoolean d with e | b <;> rw [hbool] at h <;> cases h
      rfl
    · cases h
      rfl

theorem applyTableOption_updatable (h : applyTableOption pg fpinfo d = .ok fpinfo') :
    readUpdatable pg fpinfo.updatable d = .ok fpinfo'.updatable := by
  rw [applyTableOption] at h
  rw [readUpdatable]
  by_cases hupdatable : d.defname = "updatable"
  · simp only [hupdatable, String.reduceEq, if_false, if_true] at h ⊢
    rcases hbool : pg.optionBoolean d with e | b <;> rw [hbool] at h <;> cases h
    rfl
  · rw [if_neg hupdatable] at h ⊢
    split_ifs at h <;> cases h <;> rfl

/-- A loop that keeps one part of what another loop keeps. -/
theorem foldlM_part {ε ι α β : Type} {f : α → ι → Except ε α} {g : β → ι → Except ε β}
    {part : α → β} (hstep : ∀ a i a', f a i = .ok a' → g (part a) i = .ok (part a')) {l : List ι}
    {a a' : α} (h : l.foldlM f a = .ok a') : l.foldlM g (part a) = .ok (part a') := by
  induction l generalizing a with
  | nil =>
    cases h
    rfl
  | cons i rest ih =>
    rw [List.foldlM_cons] at h ⊢
    rcases hi : f a i with e | a₁ <;> rw [hi] at h
    · cases h
    · rw [hstep a i a₁ hi]
      exact ih h

/-- The planner and the check of the command agree on what the options of both levels allow. -/
theorem tiberoIsForeignRelUpdatable_of_planned {server : ForeignServer}
    {tableOptions : List DefElem} {baserel : RelOptInfo}
    (h : tiberoGetForeignRelSize pg server tableOptions baserel = .ok fpinfo) :
    tiberoIsForeignRelUpdatable pg server tableOptions =
      .ok (if fpinfo.updatable then insertAllowed else 0) := by
  rw [tiberoGetForeignRelSize] at h
  rcases hserver : applyServerOptions pg server.options .default with e | afterServer <;>
    rw [hserver] at h
  · cases h
  change applyTableOptions pg tableOptions afterServer >>= _ = _ at h
  rcases htable : applyTableOptions pg tableOptions afterServer with e | afterTable <;>
    rw [htable] at h
  · cases h
  cases h
  have hserver' : server.options.foldlM (readUpdatable pg) false = .ok afterServer.updatable :=
    foldlM_part (fun _ _ _ => applyServerOption_updatable) hserver
  have htable' : tableOptions.foldlM (readUpdatable pg) afterServer.updatable =
      .ok afterTable.updatable := foldlM_part (fun _ _ _ => applyTableOption_updatable) htable
  rw [tiberoIsForeignRelUpdatable, hserver']
  change tableOptions.foldlM (readUpdatable pg) afterServer.updatable >>= _ = _
  rw [htable']
  rfl

end

/-- The options of a server that names its database and nothing else. -/
def plainServer : List DefElem :=
  [⟨"host", "h".toList⟩, ⟨"port", "1".toList⟩, ⟨"dbname", "d".toList⟩]

/-- A table that can be updated. -/
theorem tableUpdatable_obeyed :
    PlannerObeys Postgres.small plainServer
      [⟨"updatable", "true".toList⟩, ⟨"table_name", "t".toList⟩] := by
  apply (plannerObeys_iff (by decide +kernel) (by decide +kernel)).mpr
  intro text htext
  cases htext

/-- A table that asks for a flashback query, which the validator accepts, does
not get one. -/
theorem tableFbQuery_not_obeyed :
    tiberoFdwValidator Postgres.small plainServer .foreignServerRelationId = .ok () ∧
      tiberoFdwValidator Postgres.small
        [⟨"table_name", "t".toList⟩, ⟨"use_fb_query", "true".toList⟩]
        .foreignTableRelationId = .ok () ∧
      ¬PlannerObeys Postgres.small plainServer
        [⟨"table_name", "t".toList⟩, ⟨"use_fb_query", "true".toList⟩] := by
  have hserver : tiberoFdwValidator Postgres.small plainServer .foreignServerRelationId = .ok () :=
    by decide +kernel
  have htable : tiberoFdwValidator Postgres.small
      [⟨"table_name", "t".toList⟩, ⟨"use_fb_query", "true".toList⟩]
      .foreignTableRelationId = .ok () := by decide +kernel
  refine ⟨hserver, htable, fun h => ?_⟩
  have hvalue := h.repeats (readable_of_server hserver) (readable_of_table htable) "true".toList rfl
  revert hvalue
  decide +kernel

end TiberoFdw
