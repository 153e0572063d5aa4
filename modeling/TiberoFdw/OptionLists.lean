import Mathlib.Data.List.Nodup
import TiberoFdw.Options

/-!
# Option lists

Which lists of options the validator accepts, and what it reports of the others.

The validator keeps a table of the registered options, and marks in it the ones it has
come across; what is reported of an option does not depend on the marks (`offence`). So
the loop reports the first offence of the list (`validateOptions_eq`), and without one
the marks at the end are the names of the list.
-/

namespace TiberoFdw

/-! ## What a list has to be -/

/-- The catalogs whose options are checked. -/
inductive OptionCatalog : Type where
  | server
  | table
  | userMapping
  | column

/-- What the value of an option has to be. -/
inductive OptionType : Type where
  | text
  | size
  | boolean

/-- An option that objects of a kind have. -/
structure OptionSpec where
  name : String
  type : OptionType
  hidden : Bool
  required : Bool

namespace OptionCatalog

/-- The catalog whose objects have the options. -/
def target : OptionCatalog → TargetObject
  | server => .foreignServerRelationId
  | table => .foreignTableRelationId
  | userMapping => .userMappingRelationId
  | column => .attributeRelationId

/-- The options of each kind, in the order in which they are registered. -/
def specs : OptionCatalog → List OptionSpec
  | server =>
    [⟨"host", .text, false, true⟩, ⟨"port", .text, false, true⟩, ⟨"dbname", .text, false, true⟩,
      ⟨"fetch_size", .size, false, false⟩, ⟨"use_sleep_on_sig", .boolean, true, false⟩,
      ⟨"use_fb_query", .boolean, true, false⟩, ⟨"keep_connections", .boolean, true, false⟩,
      ⟨"updatable", .boolean, true, false⟩]
  | table =>
    [⟨"owner_name", .text, false, false⟩, ⟨"table_name", .text, false, true⟩,
      ⟨"fetch_size", .size, false, false⟩, ⟨"use_fb_query", .boolean, true, false⟩,
      ⟨"updatable", .boolean, true, false⟩]
  | userMapping =>
    [⟨"username", .text, false, true⟩, ⟨"password", .text, false, true⟩,
      ⟨"password_required", .boolean, true, false⟩]
  | column => [⟨"column_name", .text, false, false⟩]

end OptionCatalog

/-- A value that passes its check. -/
def ValidValue (pg : Postgres) (type : OptionType) (text : Text) : Prop :=
  text ≠ [] ∧
    match type with
    | .text => True
    | .size => ∃ v, pg.parseInt text = some v ∧ 0 < v ∧ v < 0x7fffffff
    | .boolean => ∃ b, pg.defGetBoolean text = some b

/-- The option is a known one, with a valid value. -/
def ValidOption (pg : Postgres) (catalog : OptionCatalog) (d : DefElem) : Prop :=
  ∃ spec ∈ catalog.specs, spec.name = d.defname ∧ ValidValue pg spec.type d.arg

/-- A well-formed list. -/
structure WellFormed (pg : Postgres) (catalog : OptionCatalog) (options : List DefElem) :
    Prop where
  valid : ∀ d ∈ options, ValidOption pg catalog d
  sufficient : ∀ spec ∈ catalog.specs, spec.required = true → ∃ d ∈ options, d.defname = spec.name

/-- What may be reported of the value of an option. -/
def valueErrors (d : DefElem) : List OptionError :=
  [⟨⟨.invalidParameterValue, "\"" ++ d.defname ++ "\" requires non-empty value"⟩, none⟩,
    ⟨⟨.invalidParameterValue, "invalid value for integer option \"" ++ d.defname ++ "\": " ++
      String.ofList d.arg⟩, none⟩,
    ⟨⟨.invalidParameterValue,
      "\"" ++ d.defname ++ "\" must be an integer value greater than zero"⟩, none⟩,
    ⟨⟨.invalidParameterValue, "\"" ++ d.defname ++ "\" exceeded the maximum value"⟩, none⟩,
    ⟨⟨.syntaxError, d.defname ++ " requires a Boolean value"⟩, none⟩]

/-- The error is about that option, and not about one that is missing. -/
structure Blames (catalog : OptionCatalog) (d : DefElem) (err : OptionError) : Prop where
  unknown : (∀ spec ∈ catalog.specs, spec.name ≠ d.defname) →
    err.sqlerrcode = .fdwInvalidOptionName ∧ err.errmsg = "invalid option \"" ++ d.defname ++ "\""
  badValue : (∃ spec ∈ catalog.specs, spec.name = d.defname) → err ∈ valueErrors d
  notMissing : err.sqlerrcode ≠ .fdwError

/-- What is said of the validator. -/
structure ValidatesExactly (pg : Postgres) (catalog : OptionCatalog) : Prop where
  accepts : ∀ options, tiberoFdwValidator pg options catalog.target = .ok () ↔
    WellFormed pg catalog options
  anyOrder : ∀ options options', options.Perm options' →
    (tiberoFdwValidator pg options catalog.target = .ok () ↔
      tiberoFdwValidator pg options' catalog.target = .ok ())
  firstOffence : ∀ before d after, (∀ d' ∈ before, ValidOption pg catalog d') →
    ¬ValidOption pg catalog d →
    ∃ err, tiberoFdwValidator pg (before ++ d :: after) catalog.target = .error err ∧
      Blames catalog d err

/-! ## The loop -/

/-- What is reported of an option. -/
def offence (pg : Postgres) (registered : List TbFdwOption) (d : DefElem) : Option OptionError :=
  match registered.find? fun iter => iter.keyword == d.defname with
  | none => some (ereportInvalidOption registered d.defname)
  | some iter =>
    match iter.validate pg d with
    | .ok _ => none
    | .error err => some err

/-- The registered options, with those of a name marked. -/
def marked (name : String) (registered : List TbFdwOption) : List TbFdwOption :=
  registered.map fun iter => if iter.keyword = name then { iter with configured := true } else iter

section

variable {pg : Postgres} {registered : List TbFdwOption} {d : DefElem} {name : String}

theorem marked_cons (iter : TbFdwOption) :
    marked name (iter :: registered) =
      (if iter.keyword = name then { iter with configured := true } else iter) ::
        marked name registered := rfl

theorem marked_of_not_mem (h : name ∉ registered.map (·.keyword)) :
    marked name registered = registered := by
  rw [marked]
  refine (List.map_congr_left fun iter hmem => ?_).trans registered.map_id
  rw [if_neg]
  · rfl
  · rintro rfl
    exact h (List.mem_map.mpr ⟨iter, hmem, rfl⟩)

theorem marked_keywords :
    (marked name registered).map (·.keyword) = registered.map (·.keyword) := by
  rw [marked, List.map_map]
  refine List.map_congr_left fun iter _ => ?_
  rw [Function.comp_apply]
  split_ifs <;> rfl

/-- The one option of the name is validated, and marked. -/
theorem searchForOptionInRegistered_eq (hnodup : (registered.map (·.keyword)).Nodup) :
    searchForOptionInRegistered pg d registered =
      match registered.find? fun iter => iter.keyword == d.defname with
      | none => .ok none
      | some iter =>
        match iter.validate pg d with
        | .ok _ => .ok (some (marked d.defname registered))
        | .error err => .error err := by
  induction registered with
  | nil => rfl
  | cons iter rest ih =>
    obtain ⟨hkeyword, hrest⟩ := List.nodup_cons.mp hnodup
    rw [searchForOptionInRegistered, List.find?_cons, marked_cons]
    by_cases hname : d.defname = iter.keyword
    · -- no other option has the name
      rw [if_pos hname, if_pos hname.symm, hname, marked_of_not_mem hkeyword]
      rcases hvalidate : iter.validate pg d with err | u <;> simp [hvalidate]
    · rw [if_neg hname, if_neg (Ne.symm hname), beq_false_of_ne (Ne.symm hname), ih hrest]
      rcases rest.find? _ with _ | found
      · rfl
      · dsimp only
        rcases found.validate pg d with err | u <;> rfl

/-- A hint does not depend on the marks. -/
theorem marked_shown :
    ((marked name registered).filter fun iter => !iter.hidden).map (·.keyword) =
      (registered.filter fun iter => !iter.hidden).map (·.keyword) := by
  induction registered with
  | nil => rfl
  | cons iter rest ih =>
    rw [marked_cons, List.filter_cons, List.filter_cons]
    by_cases hname : iter.keyword = name
    · rw [if_pos hname]
      split_ifs
      · rw [List.map_cons, List.map_cons, ih]
      · exact ih
    · rw [if_neg hname]
      split_ifs
      · rw [List.map_cons, List.map_cons, ih]
      · exact ih

/-- What is reported does not depend on the marks. -/
theorem offence_marked : offence pg (marked name registered) d = offence pg registered d := by
  have hshown : ereportInvalidOption (marked name registered) d.defname =
      ereportInvalidOption registered d.defname := by
    rw [ereportInvalidOption, ereportInvalidOption, keywordsText, keywordsText, marked_shown]
  have hfind : (marked name registered).find? (fun iter => iter.keyword == d.defname) =
      (registered.find? fun iter => iter.keyword == d.defname).map fun iter =>
        if iter.keyword = name then { iter with configured := true } else iter := by
    rw [marked, List.find?_map]
    congr 2
    funext iter
    rw [Function.comp_apply]
    split_ifs <;> rfl
  rw [offence, offence, hfind, hshown]
  rcases registered.find? _ with _ | iter
  · rfl
  · rw [Option.map_some]
    dsimp only
    split_ifs <;> rfl

/-- **The loop** reports the first offence; without one, the options of the list are marked. Whether
the required ones are there is decided from the marks, after the last option. -/
theorem validateOptions_eq {input : List DefElem}
    (hnodup : (registered.map (·.keyword)).Nodup) :
    validateOptions pg registered input =
      match input.findSome? (offence pg registered) with
      | some err => .error err
      | none => checkSufficientInputOptions
          (input.foldl (fun registered d => marked d.defname registered) registered) := by
  induction input generalizing registered with
  | nil => rfl
  | cons d rest ih =>
    rw [validateOptions, searchForOptionInRegistered_eq hnodup, List.findSome?_cons, offence]
    rcases registered.find? _ with _ | iter
    · rfl
    dsimp only
    rcases iter.validate pg d with err | u
    · rfl
    · dsimp only
      have hnodup' : ((marked d.defname registered).map (·.keyword)).Nodup := by
        rw [marked_keywords]
        exact hnodup
      have hsame : offence pg (marked d.defname registered) = offence pg registered :=
        funext fun d' => offence_marked
      rw [ih hnodup', hsame, List.foldl_cons]

/-- Nothing is missing when every required option is marked. -/
theorem checkSufficientInputOptions_iff : checkSufficientInputOptions registered = .ok () ↔
    ∀ iter ∈ registered, iter.required = true → iter.configured = true := by
  refine ⟨checkSufficientInputOptions_ok, fun h => ?_⟩
  rw [checkSufficientInputOptions]
  refine if_pos (List.isEmpty_iff.mpr (List.filter_eq_nil_iff.mpr fun iter hmem => ?_))
  rcases hrequired : iter.required with _ | _
  · simp
  · simp [h iter hmem hrequired]

/-- The marks at the end of the loop are the names of the list. -/
theorem marked_sufficient {input : List DefElem} :
    (∀ iter ∈ input.foldl (fun registered d => marked d.defname registered) registered,
      iter.required = true → iter.configured = true) ↔
    ∀ iter ∈ registered, iter.required = true →
      iter.configured = true ∨ ∃ d ∈ input, d.defname = iter.keyword := by
  induction input generalizing registered with
  | nil => simp
  | cons d rest ih =>
    rw [List.foldl_cons, ih, marked, List.forall_mem_map]
    refine forall₂_congr fun iter _ => ?_
    by_cases hname : iter.keyword = d.defname
    · rw [if_pos hname]
      simp [hname]
    · rw [if_neg hname, List.exists_mem_cons_iff, or_iff_right (Ne.symm hname)]

end

/-! ## The registered options -/

/-- The function that checks a value. -/
def OptionType.check : OptionType → Postgres → DefElem → Except OptionError Unit
  | text => getStrValueWithNullCheck
  | size => validateFetchSizeOption
  | boolean => getBoolValueWithNullCheck

/-- The entry of the table for an option. -/
def OptionSpec.register (spec : OptionSpec) : TbFdwOption :=
  tbFdwOption spec.name spec.type.check spec.hidden spec.required

/-- The table of the options, as it is registered. -/
def OptionCatalog.registered (catalog : OptionCatalog) : List TbFdwOption :=
  catalog.specs.map OptionSpec.register

section

variable {pg : Postgres} {catalog : OptionCatalog} {d : DefElem} {options : List DefElem}

/-- The tables of the validator are those of the specification. -/
theorem tiberoFdwValidator_registered : tiberoFdwValidator pg options catalog.target =
    validateOptions pg catalog.registered options := by
  cases catalog <;> rfl

theorem OptionCatalog.names_nodup : (catalog.specs.map (·.name)).Nodup := by
  cases catalog <;> decide

theorem OptionCatalog.keywords_nodup : (catalog.registered.map (·.keyword)).Nodup := by
  rw [OptionCatalog.registered, List.map_map]
  exact OptionCatalog.names_nodup

/-- A value passes its check exactly when it is valid. -/
theorem OptionType.check_cases (type : OptionType) :
    (type.check pg d = .ok () ∧ ValidValue pg type d.arg) ∨
      ∃ err ∈ valueErrors d, type.check pg d = .error err ∧ ¬ValidValue pg type d.arg := by
  by_cases hempty : d.arg = []
  · refine .inr ⟨_, List.mem_cons_self .., ?_, fun h => h.1 hempty⟩
    cases type with
    | text => exact if_pos hempty
    | boolean => exact if_pos hempty
    | size =>
      rw [OptionType.check, validateFetchSizeOption, getStrValueWithNullCheck, if_pos hempty]
      rfl
  cases type with
  | text => exact .inl ⟨if_neg hempty, hempty, trivial⟩
  | boolean =>
    rw [OptionType.check, getBoolValueWithNullCheck, if_neg hempty, Postgres.optionBoolean,
      ValidValue]
    rcases hb : pg.defGetBoolean d.arg with _ | b
    · refine .inr ⟨_, ?_, rfl, ?_⟩
      · simp [valueErrors]
      · rintro ⟨-, b, ⟨⟩⟩
    · exact .inl ⟨rfl, hempty, b, rfl⟩
  | size =>
    simp only [OptionType.check, validateFetchSizeOption, getStrValueWithNullCheck, if_neg hempty,
      ValidValue, bind, Except.bind]
    rcases hint : pg.parseInt d.arg with _ | v
    · refine .inr ⟨_, ?_, rfl, ?_⟩
      · simp [valueErrors]
      · rintro ⟨-, v, ⟨⟩, -⟩
    dsimp only
    split_ifs with hpos hmax
    · refine .inr ⟨_, ?_, rfl, ?_⟩
      · simp [valueErrors]
      · rintro ⟨-, v, ⟨⟩, hv, -⟩
        omega
    · refine .inr ⟨_, ?_, rfl, ?_⟩
      · simp [valueErrors]
      · rintro ⟨-, v, ⟨⟩, -, hv⟩
        rw [tbFdwMaxFetchSize] at hmax
        omega
    · refine .inl ⟨rfl, hempty, v, rfl, by omega, ?_⟩
      rw [tbFdwMaxFetchSize] at hmax
      omega

theorem valueErrors_notMissing {err : OptionError} (h : err ∈ valueErrors d) :
    err.sqlerrcode ≠ .fdwError := by
  simp only [valueErrors, List.mem_cons, List.not_mem_nil, or_false] at h
  rcases h with rfl | rfl | rfl | rfl | rfl <;> simp

/-- An option is fine, or it is reported. -/
theorem offence_cases :
    (offence pg catalog.registered d = none ∧ ValidOption pg catalog d) ∨
      ∃ err, offence pg catalog.registered d = some err ∧ ¬ValidOption pg catalog d ∧
        Blames catalog d err := by
  have hfind : (catalog.registered.find? fun iter => iter.keyword == d.defname) =
      (catalog.specs.find? fun spec => spec.name == d.defname).map OptionSpec.register :=
    List.find?_map ..
  rcases hspec : catalog.specs.find? (fun spec => spec.name == d.defname) with _ | spec
  · -- no option has the name
    have hoffence : offence pg catalog.registered d =
        some (ereportInvalidOption catalog.registered d.defname) := by
      rw [offence, hfind, hspec]
      rfl
    have hunknown : ∀ spec ∈ catalog.specs, spec.name ≠ d.defname := fun spec hmem hname =>
      List.find?_eq_none.mp hspec spec hmem (beq_iff_eq.mpr hname)
    refine .inr ⟨_, hoffence, ?_, fun _ => ⟨rfl, rfl⟩, ?_, fun h => by cases h⟩
    · rintro ⟨spec, hmem, hname, -⟩
      exact hunknown spec hmem hname
    · rintro ⟨spec, hmem, hname⟩
      exact (hunknown spec hmem hname).elim
  · have hoffence : offence pg catalog.registered d =
        match spec.type.check pg d with
        | .ok _ => none
        | .error err => some err := by
      rw [offence, hfind, hspec]
      rfl
    have hmem := List.mem_of_find?_eq_some hspec
    have hname : spec.name = d.defname := by simpa using List.find?_some hspec
    rw [hoffence]
    rcases @OptionType.check_cases pg d spec.type with ⟨hok, hvalid⟩ | ⟨err, herr, hfails, hinvalid⟩
    · rw [hok]
      exact .inl ⟨rfl, spec, hmem, hname, hvalid⟩
    · rw [hfails]
      refine .inr ⟨err, rfl, ?_, fun hunknown => (hunknown spec hmem hname).elim, fun _ => herr,
        valueErrors_notMissing herr⟩
      -- the name stands for one option only
      rintro ⟨spec', hmem', hname', hvalid'⟩
      have hsame := List.inj_on_of_nodup_map OptionCatalog.names_nodup hmem' hmem
        (hname'.trans hname.symm)
      exact hinvalid (hsame ▸ hvalid')

/-! ## The validator -/

theorem tiberoFdwValidator_eq : tiberoFdwValidator pg options catalog.target =
    match options.findSome? (offence pg catalog.registered) with
    | some err => .error err
    | none => checkSufficientInputOptions
        (options.foldl (fun registered d => marked d.defname registered) catalog.registered) := by
  rw [tiberoFdwValidator_registered, validateOptions_eq OptionCatalog.keywords_nodup]

/-- Without an offence in the list, the required options decide. -/
theorem tiberoFdwValidator_sufficient (h : ∀ d ∈ options, offence pg catalog.registered d = none) :
    tiberoFdwValidator pg options catalog.target = .ok () ↔
      ∀ spec ∈ catalog.specs, spec.required = true → ∃ d ∈ options, d.defname = spec.name := by
  rw [tiberoFdwValidator_eq, List.findSome?_eq_none_iff.mpr h]
  dsimp only
  rw [checkSufficientInputOptions_iff, marked_sufficient, OptionCatalog.registered,
    List.forall_mem_map]
  refine forall₂_congr fun spec _ => imp_congr_right fun _ => ?_
  -- no option is marked at the start
  exact or_iff_right Bool.false_ne_true

theorem tiberoFdwValidator_accepts :
    tiberoFdwValidator pg options catalog.target = .ok () ↔ WellFormed pg catalog options := by
  rcases hoffence : options.findSome? (offence pg catalog.registered) with _ | err
  · have hnone := List.findSome?_eq_none_iff.mp hoffence
    rw [tiberoFdwValidator_sufficient hnone]
    refine ⟨fun h => ⟨fun d hd => ?_, h⟩, fun h => h.sufficient⟩
    rcases @offence_cases pg catalog d with ⟨-, hvalid⟩ | ⟨err, herr, -⟩
    · exact hvalid
    · rw [hnone d hd] at herr
      cases herr
  · rw [tiberoFdwValidator_eq, hoffence]
    obtain ⟨d, hd, herr⟩ := List.exists_of_findSome?_eq_some hoffence
    refine iff_of_false nofun fun h => ?_
    rcases @offence_cases pg catalog d with ⟨hnone, -⟩ | ⟨_, -, hinvalid, -⟩
    · rw [herr] at hnone
      cases hnone
    · exact hinvalid (h.valid d hd)

/-- What is well-formed does not depend on the order. -/
theorem WellFormed.perm {options' : List DefElem} (hperm : options.Perm options')
    (h : WellFormed pg catalog options) : WellFormed pg catalog options' := by
  refine ⟨fun d hd => h.valid d (hperm.mem_iff.mpr hd), fun spec hmem hrequired => ?_⟩
  obtain ⟨d, hd, hname⟩ := h.sufficient spec hmem hrequired
  exact ⟨d, hperm.mem_iff.mp hd, hname⟩

/-- **The validator** accepts the well-formed lists, whatever their order, and reports the
first offence of the others. What is stored in a catalog has passed all the checks that the
rest of the module relies on when it reads options. -/
theorem tiberoFdwValidator_exact (pg : Postgres) (catalog : OptionCatalog) :
    ValidatesExactly pg catalog where
  accepts _ := tiberoFdwValidator_accepts
  anyOrder options options' hperm := by
    rw [tiberoFdwValidator_accepts, tiberoFdwValidator_accepts]
    exact ⟨.perm hperm, .perm hperm.symm⟩
  firstOffence before d after hbefore hinvalid := by
    rcases @offence_cases pg catalog d with ⟨-, hvalid⟩ | ⟨err, herr, -, hblames⟩
    · exact (hinvalid hvalid).elim
    refine ⟨err, ?_, hblames⟩
    have hnone : before.findSome? (offence pg catalog.registered) = none := by
      refine List.findSome?_eq_none_iff.mpr fun d' hd' => ?_
      rcases @offence_cases pg catalog d' with ⟨hnone, -⟩ | ⟨_, -, hinvalid', -⟩
      · exact hnone
      · exact (hinvalid' (hbefore d' hd')).elim
    rw [tiberoFdwValidator_eq, List.findSome?_append, hnone, Option.none_or,
      List.findSome?_cons, herr]

end

end TiberoFdw
