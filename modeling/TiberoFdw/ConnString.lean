import Mathlib.Algebra.GroupWithZero.Nat
import TiberoFdw.Lib.KeyValue
import TiberoFdw.Options
import TiberoFdw.Calls

/-!
# The connection string

`make_tb_connection` collects five values from the options of the server and of
the user mapping, and `connect_tb_server` prints them into a buffer of 512 bytes
as `KEYWORD=value` pairs. The validator makes sure that the values are there
(`configuredValues_eq`), but not that they can be read again: a separator in a
value adds a pair, and a long text loses its end (`carriesConfigured_iff`).
-/

namespace TiberoFdw

/-! ## The values -/

/-- The parameters in the options of a server and of a user mapping. -/
def connectionParams (server : ForeignServer) (user : UserMapping) : ConnParams where
  host := optionValue server.options "host"
  port := optionValue server.options "port"
  dbname := optionValue server.options "dbname"
  username := optionValue user.options "username"
  password := optionValue user.options "password"

section

variable {pg : Postgres} {env : Environment} {w w' : World} {key : ConnCacheKey}

/-- The loop over the server options. -/
theorem applyConnectionOptions_ok {options : List DefElem} {params params' : ConnParams}
    (h : applyConnectionOptions pg key options params w = .ok params' w') :
    params' = { params with
      host := (optionValue options "host").or params.host
      port := (optionValue options "port").or params.port
      dbname := (optionValue options "dbname").or params.dbname } := by
  induction options generalizing params w with
  | nil =>
    cases h
    rfl
  | cons d rest ih =>
    obtain ⟨params₁, w₁, hone, hrest⟩ := Proc.bind_eq_ok.mp h
    -- the last option of a name counts, so those of the rest come first
    rw [ih hrest, optionValue_cons, optionValue_cons, optionValue_cons, Option.or_assoc,
      Option.or_assoc, Option.or_assoc]
    rw [applyConnectionOption] at hone
    split_ifs at hone with hhost hport hdbname hkeep
    · cases hone
      simp [hhost]
    · cases hone
      simp [hport]
    · cases hone
      simp [hdbname]
    · rcases hbool : pg.defGetBoolean d.arg with _ | keep
      · rw [hbool] at hone
        cases hone
      · rw [hbool] at hone
        obtain ⟨_, _, -, hone⟩ := Proc.bind_eq_ok.mp hone
        cases hone
        simp [hkeep]
    · cases hone
      simp [hhost, hport, hdbname]

/-- The loop over the options of the user mapping. -/
theorem foldl_applyUserOption (options : List DefElem) (params : ConnParams) :
    options.foldl applyUserOption params = { params with
      username := (optionValue options "username").or params.username
      password := (optionValue options "password").or params.password } := by
  induction options generalizing params with
  | nil => rfl
  | cons d rest ih =>
    rw [List.foldl_cons, ih, optionValue_cons, optionValue_cons, Option.or_assoc, Option.or_assoc]
    by_cases husername : d.defname = "username"
    · simp [applyUserOption, husername]
    · by_cases hpassword : d.defname = "password"
      · simp [applyUserOption, hpassword]
      · simp [applyUserOption, husername, hpassword]

/-! ## The calls that connect -/

/-- The call opens no connection, or opens one with the string. -/
def SqlCall.DialsOnly (connStr : Text) (call : SqlCall) : Prop :=
  ∀ hdbc s, call = .driverConnect hdbc s → s = connStr

/-- Every connection that was opened since the `n`-th call was opened with the string. -/
abbrev Dials (n : Nat) (connStr : Text) (w : World) : Prop :=
  IssuedSince n (SqlCall.DialsOnly connStr) w.trace

theorem dials_of_cleansUp {n : Nat} {connStr : Text} (call : SqlCall)
    (hcall : call.cleansUp = true) : call.Keeps (IssuedSince n (SqlCall.DialsOnly connStr)) := by
  apply IssuedSince.keeps
  rintro hdbc s rfl
  cases hcall

theorem tbSqlAllocHandle_dials {n : Nat} {connStr : Text} {handleType : HandleType}
    {inputHandle : Handle} {f : Handle → ConnCacheEntry → ConnCacheEntry} :
    Proc.Keeps (Dials n connStr) (tbSqlAllocHandle env key handleType inputHandle
      fun h => modifyConn key (f h)) := by
  refine .bind (sqlAllocHandle_keeps fun _ => IssuedSince.keeps (by rintro _ _ ⟨⟩)) ?_
  rintro ⟨rc, handle⟩
  refine .bind (.modify fun w h => h) fun _ => ?_
  exact .bind (checkReturn_keeps dials_of_cleansUp _ _) fun _ => .pure _

theorem connectTbServer_dials {n : Nat} (params : ConnParams) :
    Proc.Keeps (Dials n (connectionString params)) (connectTbServer env key params) := by
  refine .bind tbSqlAllocHandle_dials fun henv => ?_
  refine .bind (.read_bind fun w =>
    tbCall_keeps dials_of_cleansUp (IssuedSince.keeps (by rintro _ _ ⟨⟩))) fun _ => ?_
  refine .bind tbSqlAllocHandle_dials fun _ => ?_
  refine .bind (.read_bind fun w => .bind (issue_keeps (IssuedSince.keeps ?_)) fun rc =>
    checkReturn_keeps dials_of_cleansUp _ _) fun _ => .modify fun w h => h
  rintro _ _ ⟨⟩
  rfl

theorem applyConnectionOptions_dials {n : Nat} {connStr : Text} (options : List DefElem)
    (params : ConnParams) :
    Proc.Keeps (Dials n connStr) (applyConnectionOptions pg key options params) :=
  applyConnectionOptions_keeps (fun _ _ h => h) pg options params

/-- **The string**: a connection that is made is opened with the values of the
options, printed into the buffer. -/
theorem makeTbConnection_dials (server : ForeignServer) (user : UserMapping)
    (hserver : env.foreignServer w.lookups user.serverid = server) :
    Dials w.trace.length (connectionString (connectionParams server user))
      (makeTbConnection pg env key user w).next := by
  obtain ⟨w₁, hlookup, hdel, -⟩ := getForeignServer_run env user.serverid w
  have hstart : Dials w.trace.length (connectionString (connectionParams server user)) w₁ := by
    rw [← hdel.trace]
    exact IssuedSince.now _ _
  rw [makeTbConnection, Proc.bind_of_ok hlookup, hserver, modifyConn, Proc.modify_bind_run]
  have hreset : Dials w.trace.length (connectionString (connectionParams server user))
      (w₁.setConn key (resetEntry env server user)) := hstart
  have hoptions : Dials w.trace.length (connectionString (connectionParams server user))
      (applyConnectionOptions pg key server.options ⟨none, none, none, none, none⟩
        (w₁.setConn key (resetEntry env server user))).next :=
    (applyConnectionOptions_dials server.options _).next hreset
  rcases hrun : applyConnectionOptions pg key server.options ⟨none, none, none, none, none⟩
      (w₁.setConn key (resetEntry env server user)) with ⟨params, w₂⟩ | ⟨e, w₂⟩
  · rw [hrun] at hoptions
    rw [Proc.bind_of_ok hrun, applyConnectionOptions_ok hrun, foldl_applyUserOption]
    simpa [connectionParams] using
      (connectTbServer_dials (connectionParams server user)).next hoptions
  · rw [hrun] at hoptions
    rw [Proc.bind_of_raise hrun]
    exact hoptions

/-- A connection is opened when the driver accepts every call. -/
theorem connectTbServer_connects (hok : env.AllOk) (params : ConnParams) :
    ∃ i ∈ (connectTbServer env key params w).next.trace.drop w.trace.length,
      ∃ hdbc, i.call = .driverConnect hdbc (connectionString params) := by
  obtain ⟨henv, w₁, halloc⟩ : ∃ henv w₁, tbSqlAllocHandle env key .env SQL_NULL_HANDLE
      (fun h => modifyConn key fun c => { c with henv := h }) w = .ok henv w₁ :=
    ⟨_, _, tbSqlAllocHandle_conn_eq_ok.mpr ⟨hok _, rfl, rfl⟩⟩
  obtain ⟨w₂, hattr⟩ : ∃ w₂, tbSqlSetEnvAttr env key SQL_ATTR_ODBC_VERSION SQL_OV_ODBC3 w₁ =
      .ok () w₂ := ⟨_, tbCall_eq_ok.mpr ⟨hok _, rfl⟩⟩
  obtain ⟨hdbc, w₃, halloc'⟩ : ∃ hdbc w₃, tbSqlAllocHandle env key .dbc henv
      (fun h => modifyConn key fun c => { c with hdbc := h }) w₂ = .ok hdbc w₃ :=
    ⟨_, _, tbSqlAllocHandle_conn_eq_ok.mpr ⟨hok _, rfl, rfl⟩⟩
  -- the call with the connection string; two handles are allocated before it
  have hdial : tbSqlDriverConnect env key (connectionString params) w₃ =
      .ok () (w₃.called env (.driverConnect (w₃.conn key).hdbc (connectionString params))) := by
    rw [tbSqlDriverConnect, Proc.read_bind_run, Proc.bind_of_ok (issue_run _), checkReturn_eq_ok]
    exact ⟨hok _, rfl⟩
  have hlen : w.trace.length ≤ w₃.trace.length := by
    rw [tbSqlAllocHandle_conn_eq_ok] at halloc halloc'
    rw [tbSqlSetEnvAttr, Proc.read_bind_run, tbCall_eq_ok] at hattr
    obtain ⟨-, -, rfl⟩ := halloc
    obtain ⟨-, rfl⟩ := hattr
    obtain ⟨-, -, rfl⟩ := halloc'
    simp only [World.setConn_trace, World.called_length]
    omega
  refine ⟨⟨.driverConnect (w₃.conn key).hdbc (connectionString params), w₃.nextRc env⟩, ?_, _, rfl⟩
  rw [connectTbServer, Proc.bind_of_ok halloc, Proc.bind_of_ok hattr, Proc.bind_of_ok halloc',
    Proc.bind_of_ok hdial]
  -- what is issued later does not matter
  change _ ∈ (w₃.trace ++ [_]).drop _
  rw [List.drop_append_of_le_length hlen]
  exact List.mem_append_right _ (List.mem_singleton_self _)

/-- The loop over the server options ends when `keep_connections` is a Boolean. -/
theorem applyConnectionOptions_returns {options : List DefElem}
    (hkeep : ∀ d ∈ options, d.defname = "keep_connections" →
      ∃ b, pg.defGetBoolean d.arg = some b) (params : ConnParams) (w : World) :
    ∃ params' w', applyConnectionOptions pg key options params w = .ok params' w' := by
  induction options generalizing params w with
  | nil => exact ⟨params, w, rfl⟩
  | cons d rest ih =>
    have hone : ∃ params₁ w₁, applyConnectionOption pg key params d w = .ok params₁ w₁ := by
      rw [applyConnectionOption]
      split_ifs with _ _ _ hname
      · exact ⟨_, _, rfl⟩
      · exact ⟨_, _, rfl⟩
      · exact ⟨_, _, rfl⟩
      · obtain ⟨b, hb⟩ := hkeep d (List.mem_cons_self ..) hname
        rw [hb]
        exact ⟨_, _, rfl⟩
      · exact ⟨_, _, rfl⟩
    obtain ⟨params₁, w₁, hone⟩ := hone
    rw [applyConnectionOptions, Proc.bind_of_ok hone]
    exact ih (fun d' hd' => hkeep d' (List.mem_cons_of_mem _ hd')) params₁ w₁

end

/-! ## The values that are configured -/

/-- Five values for the connection string. -/
structure ConfiguredValues where
  host : Text
  port : Text
  dbname : Text
  username : Text
  password : Text

namespace ConfiguredValues

/-- The values as `connect_tb_server` is given them. -/
def params (v : ConfiguredValues) : ConnParams :=
  ⟨some v.host, some v.port, some v.dbname, some v.username, some v.password⟩

/-- The keys of the connection string with their values. -/
def pairs (v : ConfiguredValues) : List (Text × Text) :=
  [("SERVER".toList, v.host), ("PORT".toList, v.port), ("DB".toList, v.dbname),
    ("UID".toList, v.username), ("PWD".toList, v.password)]

/-- The five pairs are printed as they are, up to the end of the buffer. -/
theorem connectionString_params (v : ConfiguredValues) :
    connectionString v.params = (KeyValue.write ';' '=' v.pairs).take 511 := by
  rw [connectionString]
  congr 1
  simp [params, pairs, printfS, KeyValue.write, KeyValue.pairText, List.intercalate]

theorem length_write_pairs (v : ConfiguredValues) :
    (KeyValue.write ';' '=' v.pairs).length = 27 + (v.host.length + v.port.length +
      v.dbname.length + v.username.length + v.password.length) := by
  simp [pairs, KeyValue.write, KeyValue.pairText, List.intercalate]
  omega

end ConfiguredValues

/-- What `make_tb_connection` does with the values: it finds them, and the string
it connects with reads back as their pairs. -/
structure Carries (pg : Postgres) (server : ForeignServer) (user : UserMapping)
    (v : ConfiguredValues) : Prop where
  found : ∀ key w params w',
    applyConnectionOptions pg key server.options ⟨none, none, none, none, none⟩ w =
      .ok params w' → user.options.foldl applyUserOption params = v.params
  string : ∀ env key w, env.foreignServer w.lookups user.serverid = server →
    ∀ i ∈ (makeTbConnection pg env key user w).next.trace.drop w.trace.length,
      ∀ hdbc connStr, i.call = .driverConnect hdbc connStr →
        ∃ pairs, KeyValue.read ';' '=' connStr = some pairs ∧ pairs.Perm v.pairs

/-- All five values are configured, and the connection string carries them. -/
def CarriesConfigured (pg : Postgres) (server : ForeignServer) (user : UserMapping) : Prop :=
  ∃ v : ConfiguredValues, connectionParams server user = v.params ∧ Carries pg server user v

/-- The values of the options that go into the connection string. -/
def configuredTexts (server : ForeignServer) (user : UserMapping) : List Text :=
  (["host", "port", "dbname"].filterMap (optionValue server.options)) ++
    (["username", "password"].filterMap (optionValue user.options))

section

variable {pg : Postgres} {server : ForeignServer} {user : UserMapping} {v : ConfiguredValues}

theorem configuredTexts_eq (h : connectionParams server user = v.params) :
    configuredTexts server user = [v.host, v.port, v.dbname, v.username, v.password] := by
  have hhost : optionValue server.options "host" = some v.host := congrArg (·.host) h
  have hport : optionValue server.options "port" = some v.port := congrArg (·.port) h
  have hdbname : optionValue server.options "dbname" = some v.dbname := congrArg (·.dbname) h
  have husername : optionValue user.options "username" = some v.username :=
    congrArg (·.username) h
  have hpassword : optionValue user.options "password" = some v.password :=
    congrArg (·.password) h
  simp [configuredTexts, hhost, hport, hdbname, husername, hpassword]

/-- A required option has a value. -/
theorem Accepted.exists_optionValue {registered : List TbFdwOption} {options : List DefElem}
    (h : Accepted pg registered options) (iter : TbFdwOption) (hmem : iter ∈ registered)
    (hrequired : iter.required = true) (hconfigured : iter.configured = false) :
    ∃ text, optionValue options iter.keyword = some text := by
  rcases h.sufficient iter hmem hrequired with hconf | ⟨d, hd, hname⟩
  · rw [hconfigured] at hconf
    cases hconf
  · rw [← Option.isSome_iff_exists, optionValue, Option.isSome_map,
      List.find?_isSome]
    exact ⟨d, List.mem_reverse.mpr hd, beq_iff_eq.mpr hname⟩

/-- **Nothing is missing**: the options that are accepted give all five values. -/
theorem configured_of_accepted
    (hserver : tiberoFdwValidator pg server.options .foreignServerRelationId = .ok ())
    (huser : tiberoFdwValidator pg user.options .userMappingRelationId = .ok ()) :
    ∃ v : ConfiguredValues, connectionParams server user = v.params := by
  have hserver' := validateOptions_ok hserver
  have huser' := validateOptions_ok huser
  obtain ⟨host, hhost⟩ := hserver'.exists_optionValue
    (tbFdwOption "host" validateHostOption false true) (by simp [foreignServerOptions]) rfl rfl
  obtain ⟨port, hport⟩ := hserver'.exists_optionValue
    (tbFdwOption "port" validatePortOption false true) (by simp [foreignServerOptions]) rfl rfl
  obtain ⟨dbname, hdbname⟩ := hserver'.exists_optionValue
    (tbFdwOption "dbname" validateDbnameOption false true) (by simp [foreignServerOptions]) rfl rfl
  obtain ⟨username, husername⟩ := huser'.exists_optionValue
    (tbFdwOption "username" validateUsernameOption false true)
    (by simp [userMappingOptions]) rfl rfl
  obtain ⟨password, hpassword⟩ := huser'.exists_optionValue
    (tbFdwOption "password" validatePasswordOption false true)
    (by simp [userMappingOptions]) rfl rfl
  refine ⟨⟨host, port, dbname, username, password⟩, ?_⟩
  simp only [tbFdwOption] at hhost hport hdbname husername hpassword
  rw [connectionParams, hhost, hport, hdbname, husername, hpassword]
  rfl

/-- `make_tb_connection` finds the values. -/
theorem found_params (h : connectionParams server user = v.params) {key : ConnCacheKey}
    {w w' : World} {params : ConnParams}
    (hrun : applyConnectionOptions pg key server.options ⟨none, none, none, none, none⟩ w =
      .ok params w') : user.options.foldl applyUserOption params = v.params := by
  rw [foldl_applyUserOption, applyConnectionOptions_ok hrun, ← h]
  simp [connectionParams]

/-- Nothing in the values gets in the way, and the string fits into its buffer. -/
def FitsUnescaped (server : ForeignServer) (user : UserMapping) : Prop :=
  (∀ text ∈ configuredTexts server user, ';' ∉ text) ∧
    ((configuredTexts server user).map List.length).sum ≤ 484

/-- A string that is read back as its pairs has only plain values, and is complete. -/
theorem fits_of_read (h : connectionParams server user = v.params) {pairs : List (Text × Text)}
    (hread : KeyValue.read ';' '=' (connectionString v.params) = some pairs)
    (hperm : pairs.Perm v.pairs) : FitsUnescaped server user := by
  rw [FitsUnescaped, configuredTexts_eq h]
  constructor
  · have hplain : ∀ pair ∈ v.pairs, ';' ∉ pair.2 := by
      intro pair hp
      exact KeyValue.mem_read hread (hperm.mem_iff.mpr hp)
    simpa [ConfiguredValues.pairs] using hplain
  · -- what is read has the length of what was to be written
    have hlen : (KeyValue.write ';' '=' pairs).length = (KeyValue.write ';' '=' v.pairs).length :=
      KeyValue.length_write_perm hperm
    rw [KeyValue.write_read hread, ConfiguredValues.connectionString_params, List.length_take,
      v.length_write_pairs] at hlen
    simp only [List.map_cons, List.map_nil, List.sum_cons, List.sum_nil]
    omega

theorem read_of_fits (h : connectionParams server user = v.params)
    (hfits : FitsUnescaped server user) :
    KeyValue.read ';' '=' (connectionString v.params) = some v.pairs := by
  rw [FitsUnescaped, configuredTexts_eq h] at hfits
  obtain ⟨hplain, hlen⟩ := hfits
  simp only [List.map_cons, List.map_nil, List.sum_cons, List.sum_nil] at hlen
  rw [ConfiguredValues.connectionString_params, List.take_of_length_le]
  · apply KeyValue.read_write
    · simp [ConfiguredValues.pairs]
    · decide
    · simpa [ConfiguredValues.pairs] using hplain
  · rw [v.length_write_pairs]
    omega

/-- The options of an accepted server are read to their end. -/
theorem keepConnections_of_accepted
    (hserver : tiberoFdwValidator pg server.options .foreignServerRelationId = .ok ()) :
    ∀ d ∈ server.options, d.defname = "keep_connections" →
      ∃ b, pg.defGetBoolean d.arg = some b := by
  rintro d hd hkeep
  obtain ⟨iter, hmem, hname, hok⟩ := (validateOptions_ok hserver).valid d hd
  simp only [foreignServerOptions, List.mem_cons, List.not_mem_nil, or_false] at hmem
  rw [hkeep] at hname
  rcases hmem with rfl | rfl | rfl | rfl | rfl | rfl | rfl | rfl <;>
    first
      | exact getBoolValueWithNullCheck_ok hok
      | exact absurd hname (by decide)

/-- What is configured only arrives when it fits. -/
theorem CarriesConfigured.fits
    (hserver : tiberoFdwValidator pg server.options .foreignServerRelationId = .ok ())
    (h : CarriesConfigured pg server user) : FitsUnescaped server user := by
  obtain ⟨v, hparams, hcarries⟩ := h
  -- a driver that accepts every call, and finds the server
  let env : Environment := { Environment.succeeding with foreignServer := fun _ _ => server }
  obtain ⟨w₁, hlookup, -, -⟩ := getForeignServer_run env user.serverid World.start
  obtain ⟨params, w₂, hoptions⟩ : ∃ params w₂, applyConnectionOptions pg user.umid server.options
      ⟨none, none, none, none, none⟩ (w₁.setConn user.umid (resetEntry env server user)) =
        .ok params w₂ :=
    applyConnectionOptions_returns (keepConnections_of_accepted hserver) _ _
  have hok : env.AllOk := fun _ => rfl
  obtain ⟨i, hi, hdbc, hcall⟩ : ∃ i ∈ (connectTbServer env user.umid v.params w₂).next.trace.drop
      w₂.trace.length, ∃ hdbc, i.call = .driverConnect hdbc (connectionString v.params) :=
    connectTbServer_connects hok v.params
  have hrun : makeTbConnection pg env user.umid user World.start =
      connectTbServer env user.umid v.params w₂ := by
    rw [makeTbConnection, Proc.bind_of_ok hlookup, modifyConn, Proc.modify_bind_run,
      Proc.bind_of_ok hoptions, found_params hparams hoptions]
  obtain ⟨pairs, hread, hperm⟩ := hcarries.string env user.umid World.start rfl i
    (by rw [hrun]; exact List.mem_of_mem_drop hi) hdbc _ hcall
  exact fits_of_read hparams hread hperm

/-- **The connection string**: it carries the configured values exactly when none
contains a separator and all of them together fit into the buffer. A longer string is cut, and a
separator starts a parameter of its own, so that the driver is given other values. -/
theorem carriesConfigured_iff
    (hserver : tiberoFdwValidator pg server.options .foreignServerRelationId = .ok ())
    (huser : tiberoFdwValidator pg user.options .userMappingRelationId = .ok ()) :
    CarriesConfigured pg server user ↔ FitsUnescaped server user := by
  refine ⟨CarriesConfigured.fits hserver, fun hfits => ?_⟩
  obtain ⟨v, hparams⟩ := configured_of_accepted hserver huser
  refine ⟨v, hparams, fun key w params w' hrun => found_params hparams hrun, ?_⟩
  rintro env key w hfound i hi hdbc connStr hcall
  have hdials : Dials w.trace.length (connectionString (connectionParams server user))
      (makeTbConnection pg env key user w).next := makeTbConnection_dials server user hfound
  have hstring := hdials.all i hi hdbc connStr hcall
  refine ⟨v.pairs, ?_, List.Perm.refl _⟩
  rw [hstring, hparams]
  exact read_of_fits hparams hfits

end

/-- A user mapping with a plain password. -/
theorem plainPassword_carried :
    CarriesConfigured Postgres.small ⟨7, plainServer⟩
      ⟨1, 7, [⟨"username", "u".toList⟩, ⟨"password", "p".toList⟩]⟩ := by
  apply (carriesConfigured_iff (by decide +kernel) (by decide +kernel)).mpr
  exact ⟨by decide, by decide⟩

/-- A password that names another server, which the validator accepts, adds a
pair to the connection string. -/
theorem passwordServer_not_carried :
    tiberoFdwValidator Postgres.small plainServer .foreignServerRelationId = .ok () ∧
      tiberoFdwValidator Postgres.small
        [⟨"username", "u".toList⟩, ⟨"password", "p;SERVER=q".toList⟩]
        .userMappingRelationId = .ok () ∧
      ¬CarriesConfigured Postgres.small ⟨7, plainServer⟩
        ⟨1, 7, [⟨"username", "u".toList⟩, ⟨"password", "p;SERVER=q".toList⟩]⟩ := by
  have hserver : tiberoFdwValidator Postgres.small plainServer .foreignServerRelationId = .ok () :=
    by decide +kernel
  refine ⟨hserver, by decide +kernel, fun h => ?_⟩
  have hfits := h.fits hserver
  revert hfits
  rintro ⟨hplain, -⟩
  exact hplain "p;SERVER=q".toList (by decide) (by decide)

end TiberoFdw
