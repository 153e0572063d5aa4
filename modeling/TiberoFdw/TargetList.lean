import TiberoFdw.Render

/-!
# Select lists and the slots of their results

Three functions share a positional contract: `deparse_target_list` writes the
select list and the attribute numbers, `tiberoBeginForeignScan` allocates one
column buffer for each attribute of the relation and fills as many as the query
has result columns, and `make_tuples` indexes the tuple descriptor by the
attribute numbers. `SlotsAgree` states the contract, `selectListAgrees_iff`
when it is kept.
-/

namespace TiberoFdw

/-- What a deparser writes into an empty buffer. -/
def written {α : Type} (d : Deparse α) : Text := (d RemoteSqlInfo.start).next.buf

/-- The number of result columns of a select list: one more than it has commas
outside of quotes. -/
def resultColumns (selectList : Text) : Nat :=
  ((SqlText.tokens selectList).getD []).count (.sym ',') + 1

/-- The contract between a select list, the attribute numbers that go with it,
and the relation. -/
structure SlotsAgree (pg : Postgres) (rtindex : Nat) (rel : Relation) (retrievedAttrs : List Int)
    (selectList : Text) : Prop where
  /-- the items are the column references of the attributes, in order -/
  items : retrievedAttrs ≠ [] →
    selectList = List.intercalate ", ".toList
      (retrievedAttrs.map fun attnum => written (deparseColumnRef pg rtindex attnum rel false))
  /-- there is a column buffer for every result column -/
  columns : resultColumns selectList ≤ rel.tupdesc.length
  /-- every index into the tuple descriptor is in range -/
  indices : ∀ attnum ∈ retrievedAttrs, 0 ≤ attnum - 1 ∧ attnum - 1 < rel.tupdesc.length

/-- The target list that is deparsed for a scan keeps the contract. -/
def SelectListAgrees (pg : Postgres) (rtindex : Nat) (rel : Relation) (attrsUsed : Bitmapset) :
    Prop :=
  ∃ retrievedAttrs s,
    deparseTargetList pg rtindex rel false attrsUsed false RemoteSqlInfo.start =
      .ok retrievedAttrs s ∧
    SlotsAgree pg rtindex rel retrievedAttrs s.buf

/-! ## The fetched columns -/

theorem mem_fetchedAttrs {attrsUsed : Bitmapset} {rel : Relation} {i : Nat} :
    i ∈ fetchedAttrs attrsUsed rel ↔
      1 ≤ i ∧ ∃ attr, rel.tupdesc[i - 1]? = some attr ∧ isFetched attrsUsed attr i = true :=
  mem_fetchedFrom

theorem le_length_of_mem_fetchedAttrs {attrsUsed : Bitmapset} {rel : Relation} {i : Nat}
    (hi : i ∈ fetchedAttrs attrsUsed rel) : 1 ≤ i ∧ i ≤ rel.tupdesc.length := by
  obtain ⟨hpos, attr, hattr, -⟩ := mem_fetchedAttrs.mp hi
  have hlt := (List.getElem?_eq_some_iff.mp hattr).1
  exact ⟨hpos, by omega⟩

/-- The reference to a fetched column is one name. -/
theorem columnRef_of_mem (pg : Postgres) (rtindex : Nat) {rel : Relation}
    {attrsUsed : Bitmapset} {i : Nat} (hi : i ∈ fetchedAttrs attrsUsed rel) :
    ∃ attr, rel.tupdesc[i - 1]? = some attr ∧
      columnText pg rtindex i rel false = some (pg.quoteIdentifier (remoteColumnName attr)) := by
  obtain ⟨hpos, attr, hattr, -⟩ := mem_fetchedAttrs.mp hi
  exact ⟨attr, hattr, columnText_of_attr pg rtindex false hpos hattr⟩

/-- What the deparser writes for a fetched column. -/
theorem written_columnRef {pg : Postgres} {rtindex : Nat} {rel : Relation}
    {attrsUsed : Bitmapset} {i : Nat} (hi : i ∈ fetchedAttrs attrsUsed rel) :
    written (deparseColumnRef pg rtindex i rel false) = columnRef pg rtindex rel false i := by
  obtain ⟨attr, -, htext⟩ := columnRef_of_mem pg rtindex hi
  have h := renders_columnRef pg rtindex i rel false
  rw [htext] at h
  have hrun := h RemoteSqlInfo.start (Int.le_refl 0)
  rw [written, hrun, columnRef, htext]
  rfl

theorem count_comma_intercalate (tss : List (List SqlText.Token))
    (h : ∀ ts ∈ tss, ts.count (.sym ',') = 0) :
    (List.intercalate [.sym ','] tss).count (.sym ',') = tss.length - 1 := by
  induction tss with
  | nil => rfl
  | cons ts rest ih =>
    have hts : ts.count (.sym ',') = 0 := h ts (List.mem_cons_self ..)
    cases rest with
    | nil => simpa using hts
    | cons next rest =>
      rw [List.intercalate_cons_cons, List.count_append, List.count_append, hts,
        ih fun u hu => h u (List.mem_cons_of_mem _ hu)]
      simp [Nat.add_comm]

/-- A list of column references has one result column for each. -/
theorem resultColumns_columnRefs {pg : Postgres} {rtindex : Nat} {rel : Relation}
    {attrsUsed : Bitmapset} (hne : fetchedAttrs attrsUsed rel ≠ []) :
    resultColumns (List.intercalate ", ".toList
        ((fetchedAttrs attrsUsed rel).map (columnRef pg rtindex rel false))) =
      (fetchedAttrs attrsUsed rel).length := by
  have hlex : ∀ i ∈ fetchedAttrs attrsUsed rel, ∃ name,
      SqlText.Lexes (columnRef pg rtindex rel false i) [pg.identToken name] := by
    intro i hi
    obtain ⟨attr, -, htext⟩ := columnRef_of_mem pg rtindex hi
    refine ⟨remoteColumnName attr, ?_⟩
    rw [columnRef, htext]
    exact pg.lexes_quoteIdentifier _
  -- no column has a comma of its own outside quotes
  have hall : ∀ nums : List Nat, (∀ i ∈ nums, i ∈ fetchedAttrs attrsUsed rel) →
      ∃ tss, List.Forall₂ SqlText.Lexes (nums.map (columnRef pg rtindex rel false)) tss ∧
        tss.length = nums.length ∧ ∀ ts ∈ tss, ts.count (.sym ',') = 0 := by
    intro nums
    induction nums with
    | nil => exact fun _ => ⟨[], .nil, rfl, by simp⟩
    | cons i rest ih =>
      intro hmem
      obtain ⟨tss, hlexes, hlen, hcount⟩ := ih fun j hj => hmem j (List.mem_cons_of_mem _ hj)
      obtain ⟨name, hname⟩ := hlex i (hmem i (List.mem_cons_self ..))
      refine ⟨[pg.identToken name] :: tss, .cons hname hlexes, by simp [hlen], ?_⟩
      intro ts hts
      rcases List.mem_cons.mp hts with rfl | hts
      · rw [Postgres.identToken]
        split_ifs <;> rfl
      · exact hcount ts hts
  obtain ⟨tss, hlexes, hlen, hcount⟩ := hall _ fun _ hi => hi
  have hpos := List.length_pos_iff.mpr hne
  rw [resultColumns, (lexes_commaList hlexes).tokens, Option.getD_some,
    count_comma_intercalate tss hcount, hlen]
  omega

/-! ## The contract -/

/-- A select list without `ctid` keeps the contract unless the relation has no
attribute. -/
theorem slotsAgree_of_no_ctid {pg : Postgres} {rtindex : Nat} {rel : Relation}
    {attrsUsed : Bitmapset} (hctid : usesCtid attrsUsed = false) (hatts : 0 < rel.tupdesc.length) :
    SlotsAgree pg rtindex rel (targetAttrs rel attrsUsed)
      (targetText pg rtindex rel attrsUsed) := by
  have hattrs : targetAttrs rel attrsUsed = (fetchedAttrs attrsUsed rel).map Int.ofNat := by
    simp [targetAttrs, hctid]
  refine ⟨fun hne => ?_, ?_, ?_⟩
  · have hmap : ((fetchedAttrs attrsUsed rel).map Int.ofNat).map
          (fun attnum => written (deparseColumnRef pg rtindex attnum rel false)) =
        (fetchedAttrs attrsUsed rel).map (columnRef pg rtindex rel false) := by
      rw [List.map_map]
      exact List.map_congr_left fun i hi => written_columnRef hi
    rw [targetText, if_neg (by simpa using hne), hattrs, hmap]
    simp [targetItems, hctid]
  · rcases hf : fetchedAttrs attrsUsed rel with _ | ⟨i, rest⟩
    · -- an empty list is written as one column
      have htext : targetText pg rtindex rel attrsUsed = "NULL".toList := by
        rw [targetText, hattrs, hf]
        rfl
      rw [htext]
      exact hatts
    · have hne : fetchedAttrs attrsUsed rel ≠ [] := by rw [hf]; exact List.cons_ne_nil _ _
      have htext : targetText pg rtindex rel attrsUsed = List.intercalate ", ".toList
          ((fetchedAttrs attrsUsed rel).map (columnRef pg rtindex rel false)) := by
        rw [targetText, hattrs]
        simp [targetItems, hctid, hf]
      rw [htext, resultColumns_columnRefs hne]
      exact length_fetchedFrom_le ..
  · intro attnum hmem
    rw [hattrs] at hmem
    obtain ⟨i, hi, rfl⟩ := List.mem_map.mp hmem
    have hrange := le_length_of_mem_fetchedAttrs hi
    simp only [Int.ofNat_eq_natCast]
    omega

/-- With `ctid`, an index is negative. -/
theorem not_slotsAgree_of_ctid {pg : Postgres} {rtindex : Nat} {rel : Relation}
    {attrsUsed : Bitmapset} (hctid : usesCtid attrsUsed = true) (selectList : Text) :
    ¬ SlotsAgree pg rtindex rel (targetAttrs rel attrsUsed) selectList := by
  intro h
  have hmem : selfItemPointerAttributeNumber ∈ targetAttrs rel attrsUsed := by
    simp [targetAttrs, hctid]
  have hrange := (h.indices _ hmem).1
  simp [selfItemPointerAttributeNumber] at hrange

/-- Without attributes, the one column of the empty list has no buffer. -/
theorem not_slotsAgree_of_no_attribute {pg : Postgres} {rtindex : Nat} {rel : Relation}
    {retrievedAttrs : List Int} {selectList : Text} (hatts : rel.tupdesc.length = 0) :
    ¬ SlotsAgree pg rtindex rel retrievedAttrs selectList := by
  intro h
  have hcols := h.columns
  rw [hatts, resultColumns] at hcols
  omega

/-- **When the select list and the result slots agree**: exactly when the
relation has an attribute and `ctid` is not asked for. Then the columns of the result are the
retrieved attributes, one for one, and each value comes into its own slot. -/
theorem selectListAgrees_iff (pg : Postgres) (rtindex : Nat) (rel : Relation)
    (attrsUsed : Bitmapset) :
    SelectListAgrees pg rtindex rel attrsUsed ↔
      0 < rel.tupdesc.length ∧ usesCtid attrsUsed = false := by
  have hrun := deparseTargetList_run pg rtindex rel attrsUsed RemoteSqlInfo.start (Int.le_refl 0)
  rw [SelectListAgrees, hrun]
  constructor
  · rintro ⟨retrievedAttrs, s, hok, hagree⟩
    cases hok
    refine ⟨Nat.pos_of_ne_zero fun hzero => not_slotsAgree_of_no_attribute hzero hagree, ?_⟩
    by_contra hctid
    exact not_slotsAgree_of_ctid (by simpa using hctid) _ hagree
  · rintro ⟨hatts, hctid⟩
    exact ⟨_, _, rfl, slotsAgree_of_no_ctid hctid hatts⟩

/-- A table with one column, of which a query asks for `ctid`. -/
def oneColumn : Relation :=
  ⟨"t".toList, [⟨"id".toList, INT4OID, -1, false, false, []⟩], []⟩

/-- Asking for `ctid` gives the index `-2` into the tuple descriptor. -/
theorem ctid_not_selectListAgrees : ¬ SelectListAgrees Postgres.small 1 oneColumn [6] := by
  rintro ⟨retrievedAttrs, s, hok, hagree⟩
  have hrun : deparseTargetList Postgres.small 1 oneColumn false [6] false RemoteSqlInfo.start =
      .ok [-1] { RemoteSqlInfo.start with buf := "ctid".toList } := rfl
  cases hrun.symm.trans hok
  have hindex := (hagree.indices (-1) (by simp)).1
  omega

end TiberoFdw
