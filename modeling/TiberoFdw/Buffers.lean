import TiberoFdw.Lib.Cells
import TiberoFdw.Scan

/-!
# The memory of a batch

`Scan` keeps the strings of a batch in lists. Here is the memory under them: each result column has
a buffer of `col_size * fetch_size` bytes and an array of indicators, the driver writes a batch
into them, and `make_tuples` reads the strings from there and forms every tuple in the same two
arrays, whose datums it frees after each row. Two layers:

* `ColumnBuffer` — the memory of a column; after the driver stored a batch, every cell is read back,
  with its text cut to the column (`storeBuffers_ok`);
* `Entry` — an element of `dvalues` and `nulls`. No datum is used or freed after it was freed, and
  the tuples are those that `Scan` forms (`formTuplesInPlace_eq`).

A use of memory that is not there raises `accessFault`.
-/

namespace TiberoFdw

/-! ## Definitions -/

/-- The indicator of a null. -/
def SQL_NULL_DATA : Int := -1

/-- The terminator of a string. -/
def nul : Char := Char.ofNat 0

/-- What has no defined behaviour: a use of memory that is not there. -/
def accessFault : PgError := ⟨.internalError, "access outside of the memory"⟩

/-- The error of `fillValues` for an attribute that is not there. -/
def indexFault : PgError := ⟨.internalError, "index out of range"⟩

/-- The memory of a result column: `col_size`, `data` and `ind` of `TbColumn`. -/
structure ColumnBuffer where
  colSize : Nat
  data : List Char
  ind : List Int

/-- The indicator of a value: the length of its text, or `SQL_NULL_DATA`. -/
def indicator : Option Text → Int
  | none => SQL_NULL_DATA
  | some text => text.length

/-- What the driver writes for a column: an indicator for each row, and each text in the cell of
its row. -/
def ColumnBuffer.store (buffer : ColumnBuffer) (values : List (Option Text)) :
    Option ColumnBuffer :=
  if values.length ≤ buffer.ind.length then
    (storeCells nul buffer.colSize buffer.data 0 values).map fun data =>
      { buffer with data, ind := values.map indicator ++ buffer.ind.drop values.length }
  else none

/-- What the driver writes for a batch, from the `i`-th column on. -/
def storeBuffers (batch : List Row) : Nat → List ColumnBuffer → Option (List ColumnBuffer)
  | _, [] => some []
  | i, buffer :: rest =>
    (buffer.store (batch.map fun row => (row[i]?).join)).bind fun buffer =>
      (storeBuffers batch (i + 1) rest).map fun rest => buffer :: rest

/-- What `make_tuples` reads for a row: null, or the string at the start of the cell. -/
def ColumnBuffer.cell (buffer : ColumnBuffer) (i : Nat) : Except PgError (Option Text) :=
  match buffer.ind[i]? with
  | none => .error accessFault
  | some ind =>
    if ind = SQL_NULL_DATA then .ok none
    else
      match readString nul buffer.data (i * buffer.colSize) with
      | none => .error accessFault
      | some text => .ok (some text)

/-- The same for the column with that index. -/
def cellOf (buffers : List ColumnBuffer) (i attid : Nat) : Except PgError (Option Text) :=
  match buffers[attid]? with
  | none => .error indexFault
  | some buffer => buffer.cell i

/-- An element of `dvalues`: the null pointer, a datum, or one whose memory was freed. -/
inductive DValue : Type where
  | null
  | datum (d : Datum)
  | freed

/-- The elements of `dvalues` and `nulls` for an attribute. -/
structure Entry where
  dvalue : DValue
  null : Bool

/-- The arrays as they are allocated. -/
def Entry.unset : Entry := ⟨.null, true⟩

/-- The loop of `make_tuples` over the retrieved attributes. -/
def fillEntries (pg : Postgres) (tupdesc : TupleDesc) (cell : Nat → Except PgError (Option Text)) :
    List Int → Nat → List Entry → Except PgError (List Entry)
  | [], _, entries => .ok entries
  | attnum :: rest, attid, entries =>
    if 1 ≤ attnum then
      match tupleDescAttr tupdesc (attnum - 1).toNat, cell attid with
      | none, _ => .error indexFault
      | some _, .error e => .error e
      | some _, .ok none =>
        fillEntries pg tupdesc cell rest (attid + 1) (entries.set (attnum - 1).toNat ⟨.null, true⟩)
      | some attr, .ok (some value) =>
        match pg.inputFunctionCall (pg.pgType attr.atttypid).typinput value attr.atttypid
            attr.atttypmod with
        | some datum =>
          fillEntries pg tupdesc cell rest (attid + 1)
            (entries.set (attnum - 1).toNat ⟨.datum datum, false⟩)
        | none => .error ⟨.invalidTextRepresentation, "invalid input syntax"⟩
    else .error indexFault

/-- `heap_form_tuple`; a value that is not null is read. -/
def heapFormEntries : List Entry → Except PgError HeapTuple
  | [] => .ok []
  | ⟨_, true⟩ :: rest => (heapFormEntries rest).map fun tuple => none :: tuple
  | ⟨.datum d, false⟩ :: rest => (heapFormEntries rest).map fun tuple => some d :: tuple
  | ⟨.null, false⟩ :: _ | ⟨.freed, false⟩ :: _ => .error accessFault

/-- The loop that frees the values of a row, unless they are passed by value. -/
def freeEntries (attbyval : FormPgAttribute → Bool) :
    TupleDesc → List Entry → Except PgError (List Entry)
  | attr :: tupdesc, ⟨dvalue, null⟩ :: rest =>
    if attbyval attr then
      (freeEntries attbyval tupdesc rest).map fun entries => ⟨dvalue, null⟩ :: entries
    else
      match dvalue with
      | .null => (freeEntries attbyval tupdesc rest).map fun entries => ⟨.null, null⟩ :: entries
      | .datum _ => (freeEntries attbyval tupdesc rest).map fun entries => ⟨.freed, null⟩ :: entries
      | .freed => .error accessFault
  | _, _ => .ok []

/-- The loop of `make_tuples` over the rows. -/
def formTuplesInPlace (pg : Postgres) (attbyval : FormPgAttribute → Bool) (tupdesc : TupleDesc)
    (retrievedAttrs : List Int) (cell : Nat → Nat → Except PgError (Option Text)) :
    List Nat → List Entry → Except PgError (List HeapTuple)
  | [], _ => .ok []
  | i :: rest, entries =>
    match fillEntries pg tupdesc (cell i) retrievedAttrs 0 entries with
    | .error e => .error e
    | .ok entries =>
      match heapFormEntries entries, freeEntries attbyval tupdesc entries with
      | .error e, _ => .error e
      | .ok _, .error e => .error e
      | .ok tuple, .ok entries =>
        (formTuplesInPlace pg attbyval tupdesc retrievedAttrs cell rest entries).map fun tuples =>
          tuple :: tuples

/-! ## Columns -/

/-- The memory of a column is what a batch of that many rows needs. -/
structure ColumnBuffer.Sized (buffer : ColumnBuffer) (fetchSize : Nat) : Prop where
  width : 0 < buffer.colSize
  data : buffer.data.length = buffer.colSize * fetchSize
  ind : buffer.ind.length = fetchSize

theorem indicator_some (text : Text) : indicator (some text) ≠ SQL_NULL_DATA := by
  change (text.length : Int) ≠ -1
  omega

/-- A column after the driver has written a batch. -/
theorem ColumnBuffer.Sized.store {buffer : ColumnBuffer} {fetchSize : Nat}
    (h : buffer.Sized fetchSize) {values : List (Option Text)} (hlen : values.length ≤ fetchSize) :
    ∃ buffer', buffer.store values = some buffer' ∧ buffer'.Sized fetchSize ∧
      buffer'.colSize = buffer.colSize ∧
      ∀ i value, values[i]? = some value →
        buffer'.cell i = .ok (value.map (cutTo nul buffer.colSize)) := by
  have hcells : values.length * buffer.colSize ≤ buffer.data.length := by
    rw [h.data, Nat.mul_comm]
    exact Nat.mul_le_mul_left _ hlen
  obtain ⟨data, hdata, hlength, hread⟩ :=
    @readString_storeCells _ _ nul buffer.colSize buffer.data h.width values hcells
  have hind : (values.map indicator ++ buffer.ind.drop values.length).length = fetchSize := by
    rw [List.length_append, List.length_map, List.length_drop, h.ind]
    omega
  refine ⟨{ buffer with data, ind := values.map indicator ++ buffer.ind.drop values.length }, ?_,
    ⟨h.width, hlength.trans h.data, hind⟩, rfl, fun i value hvalue => ?_⟩
  · rw [ColumnBuffer.store, if_pos (by rw [h.ind]; exact hlen), hdata, Option.map_some]
  · obtain ⟨hlt, -⟩ := List.getElem?_eq_some_iff.mp hvalue
    have hentry : (values.map indicator ++ buffer.ind.drop values.length)[i]? =
        some (indicator value) := by
      rw [List.getElem?_append_left (by rwa [List.length_map]), List.getElem?_map, hvalue,
        Option.map_some]
    rw [ColumnBuffer.cell]
    dsimp only
    rw [hentry]
    rcases value with _ | text
    · rfl
    · dsimp only
      rw [if_neg (indicator_some text), hread i text hvalue]
      rfl

/-- **The buffers after the driver has written a batch**: every write was inside of them, and every
cell is read back, cut to its column. -/
theorem storeBuffers_ok {fetchSize : Nat} {batch : List Row} (hlen : batch.length ≤ fetchSize)
    {k : Nat} {buffers : List ColumnBuffer} (h : ∀ buffer ∈ buffers, buffer.Sized fetchSize) :
    ∃ buffers', storeBuffers batch k buffers = some buffers' ∧
      (∀ buffer ∈ buffers', buffer.Sized fetchSize) ∧
      buffers'.map ColumnBuffer.colSize = buffers.map ColumnBuffer.colSize ∧
      ∀ i row, batch[i]? = some row → ∀ attid,
        cellOf buffers' i attid = (buffers[attid]?).elim (.error indexFault) fun buffer =>
          .ok ((row[k + attid]?).join.map (cutTo nul buffer.colSize)) := by
  induction buffers generalizing k with
  | nil =>
    refine ⟨[], rfl, h, rfl, fun i row hrow attid => ?_⟩
    rw [cellOf, List.getElem?_nil]
    rfl
  | cons buffer rest ih =>
    obtain ⟨hfirst, hrest⟩ := List.forall_mem_cons.mp h
    have hvalues : (batch.map fun row => (row[k]?).join).length ≤ fetchSize := by
      rwa [List.length_map]
    obtain ⟨buffer', hstore, hsized, hwidth, hcell⟩ := hfirst.store hvalues
    obtain ⟨rest', hstores, hsizes, hwidths, hcells⟩ := ih hrest (k := k + 1)
    refine ⟨buffer' :: rest', ?_, List.forall_mem_cons.mpr ⟨hsized, hsizes⟩, ?_,
      fun i row hrow attid => ?_⟩
    · rw [storeBuffers, hstore, Option.bind_some, hstores, Option.map_some]
    · rw [List.map_cons, List.map_cons, hwidth, hwidths]
    · cases attid with
      | zero =>
        have hvalue : (batch.map fun row => (row[k]?).join)[i]? = some (row[k]?).join := by
          rw [List.getElem?_map, hrow, Option.map_some]
        exact hcell i _ hvalue
      | succ attid =>
        have hnext := hcells i row hrow attid
        rw [Nat.add_right_comm] at hnext
        exact hnext

/-! ## Tuples -/

/-- The entry of a value that was just set. -/
def Entry.ofValue : Option Datum → Entry
  | none => ⟨.null, true⟩
  | some d => ⟨.datum d, false⟩

/-- The entries are those of the tuple, except at attributes that are still to be set. -/
structure Filling (rest : List Int) (entries : List Entry) (tuple : HeapTuple) : Prop where
  length : entries.length = tuple.length
  entry : ∀ j, (∃ attnum ∈ rest, (attnum - 1).toNat = j) ∨
    entries[j]? = (tuple[j]?).map Entry.ofValue

namespace Filling

variable {attnum : Int} {rest : List Int} {entries : List Entry} {tuple : HeapTuple}

/-- An attribute is set. -/
theorem set (h : Filling (attnum :: rest) entries tuple) (value : Option Datum) :
    Filling rest (entries.set (attnum - 1).toNat (Entry.ofValue value))
      (tuple.set (attnum - 1).toNat value) where
  length := by rw [List.length_set, List.length_set, h.length]
  entry j := by
    by_cases hj : (attnum - 1).toNat = j
    · subst hj
      right
      by_cases hlt : (attnum - 1).toNat < tuple.length
      · rw [List.getElem?_set_self hlt, List.getElem?_set_self (by rwa [h.length]),
          Option.map_some]
      · rw [List.getElem?_eq_none (by rw [List.length_set, h.length]; omega),
          List.getElem?_eq_none (by rw [List.length_set]; omega), Option.map_none]
    · rw [List.getElem?_set_ne hj, List.getElem?_set_ne hj]
      refine (h.entry j).imp_left ?_
      rintro ⟨attnum', hmem, hat⟩
      rcases List.mem_cons.mp hmem with rfl | hmem
      · exact absurd hat hj
      · exact ⟨attnum', hmem, hat⟩

/-- Nothing is left to be set. -/
theorem eq_map (h : Filling [] entries tuple) : entries = tuple.map Entry.ofValue := by
  refine List.ext_getElem? fun j => ?_
  rw [List.getElem?_map]
  refine (h.entry j).resolve_left ?_
  rintro ⟨attnum, hmem, -⟩
  cases hmem

end Filling

section

variable {pg : Postgres} {tupdesc : TupleDesc} {attbyval : FormPgAttribute → Bool}

/-- **One row**: the entries are those of the tuple that `fillValues` forms, whatever the rows
before it have left at the retrieved attributes. -/
theorem fillEntries_eq {cell : Nat → Option (Option Text)} {rest : List Int} {attid : Nat}
    {entries : List Entry} {tuple : HeapTuple} (h : Filling rest entries tuple) :
    fillEntries pg tupdesc (fun attid => (cell attid).elim (.error indexFault) .ok) rest attid
        entries =
      (fillValues pg tupdesc cell rest attid tuple).map (List.map Entry.ofValue) := by
  induction rest generalizing attid entries tuple with
  | nil => rw [fillEntries, fillValues, h.eq_map, Except.map]
  | cons attnum rest ih =>
    rw [fillEntries, fillValues]
    by_cases hnum : 1 ≤ attnum
    · rw [if_pos hnum, if_pos hnum]
      rcases tupleDescAttr tupdesc (attnum - 1).toNat with _ | attr
      · rfl
      · rcases cell attid with _ | value | value
        · rfl
        · exact ih (h.set none)
        · change (match pg.inputFunctionCall (pg.pgType attr.atttypid).typinput value attr.atttypid
            attr.atttypmod with | some _ => _ | none => _) = _
          dsimp only
          rcases pg.inputFunctionCall (pg.pgType attr.atttypid).typinput value attr.atttypid
            attr.atttypmod with _ | datum
          · rfl
          · exact ih (h.set (some datum))
    · rw [if_neg hnum, if_neg hnum]
      rfl

/-- Only the retrieved attributes are set. -/
theorem fillValues_frame {cell : Nat → Option (Option Text)} {rest : List Int} {attid : Nat}
    {dvalues tuple : HeapTuple} (h : fillValues pg tupdesc cell rest attid dvalues = .ok tuple) :
    tuple.length = dvalues.length ∧
      ∀ j, (∃ attnum ∈ rest, (attnum - 1).toNat = j) ∨ tuple[j]? = dvalues[j]? := by
  induction rest generalizing attid dvalues with
  | nil =>
    cases h
    exact ⟨rfl, fun j => .inr rfl⟩
  | cons attnum rest ih =>
    -- an attribute is set, and then the others
    have hset : ∀ value, fillValues pg tupdesc cell rest (attid + 1)
        (dvalues.set (attnum - 1).toNat value) = .ok tuple →
        tuple.length = dvalues.length ∧ ∀ j,
          (∃ attnum' ∈ attnum :: rest, (attnum' - 1).toNat = j) ∨ tuple[j]? = dvalues[j]? := by
      intro value hrest
      obtain ⟨hlen, hframe⟩ := ih hrest
      refine ⟨hlen.trans List.length_set, fun j => ?_⟩
      by_cases hj : (attnum - 1).toNat = j
      · exact .inl ⟨attnum, List.mem_cons_self .., hj⟩
      · rcases hframe j with ⟨attnum', hmem, hat⟩ | heq
        · exact .inl ⟨attnum', List.mem_cons_of_mem _ hmem, hat⟩
        · exact .inr (heq.trans (List.getElem?_set_ne hj))
    rw [fillValues] at h
    split_ifs at h
    split at h
    · exact hset _ h
    · split at h
      · exact hset _ h
      · cases h
    · cases h

@[simp] theorem heapFormEntries_ofValue (tuple : HeapTuple) :
    heapFormEntries (tuple.map Entry.ofValue) = .ok tuple := by
  induction tuple with
  | nil => rfl
  | cons value rest ih =>
    rcases value with _ | d
    · change (heapFormEntries (rest.map Entry.ofValue)).map _ = _
      rw [ih, Except.map]
    · change (heapFormEntries (rest.map Entry.ofValue)).map _ = _
      rw [ih, Except.map]

/-- Every value of a row is freed once; an attribute that is null stays unset. -/
theorem freeEntries_ofValue {tuple : HeapTuple} (hlen : tuple.length = tupdesc.length) :
    ∃ entries, freeEntries attbyval tupdesc (tuple.map Entry.ofValue) = .ok entries ∧
      entries.length = tupdesc.length ∧
      ∀ j : Nat, tuple[j]? = some none → entries[j]? = some Entry.unset := by
  induction tupdesc generalizing tuple with
  | nil =>
    obtain rfl := List.length_eq_zero_iff.mp hlen
    exact ⟨[], rfl, rfl, fun j hj => by cases hj⟩
  | cons attr tupdesc ih =>
    obtain ⟨value, rest, rfl⟩ := List.exists_cons_of_length_eq_add_one hlen
    obtain ⟨entries, hfree, hentries, hnull⟩ := ih (Nat.succ.inj hlen)
    -- what becomes of the first entry
    have hfirst : ∃ entry, freeEntries attbyval (attr :: tupdesc)
        ((value :: rest).map Entry.ofValue) = .ok (entry :: entries) ∧
        (value = none → entry = Entry.unset) := by
      rw [List.map_cons]
      rcases value with _ | d
      · rw [Entry.ofValue, freeEntries, hfree]
        split_ifs
        · exact ⟨_, rfl, fun _ => rfl⟩
        · exact ⟨_, rfl, fun _ => rfl⟩
      · rw [Entry.ofValue, freeEntries, hfree]
        split_ifs
        · exact ⟨_, rfl, fun hnone => by cases hnone⟩
        · exact ⟨_, rfl, fun hnone => by cases hnone⟩
    obtain ⟨entry, hall, hentry⟩ := hfirst
    refine ⟨entry :: entries, hall, congrArg (· + 1) hentries, fun j hj => ?_⟩
    cases j with
    | zero =>
      cases hj
      rw [hentry rfl]
      rfl
    | succ j => exact hnull j hj

/-- The arrays are ready for a row: what is not retrieved is unset. -/
def Ready (tupdesc : TupleDesc) (retrievedAttrs : List Int) (entries : List Entry) : Prop :=
  Filling retrievedAttrs entries (List.replicate tupdesc.length none)

/-- The arrays are ready for the first row. -/
theorem Ready.start (retrievedAttrs : List Int) :
    Ready tupdesc retrievedAttrs (List.replicate tupdesc.length Entry.unset) where
  length := by rw [List.length_replicate, List.length_replicate]
  entry j := by
    right
    rw [List.getElem?_replicate, List.getElem?_replicate]
    split_ifs <;> rfl

/-- **All rows**: the tuples formed in place are those of `formTuples`. What a row leaves in the
arrays is overwritten at the retrieved attributes, and the others stay null. -/
theorem formTuplesInPlace_eq {fsstate : TbFdwScanState}
    {cell : Nat → Nat → Except PgError (Option Text)} {l : List Nat} {entries : List Entry}
    (hcell : ∀ i ∈ l, ∀ attid, cell i attid = (fsstate.cell i attid).elim (.error indexFault) .ok)
    (h : Ready fsstate.tupdesc fsstate.retrievedAttrs entries) :
    formTuplesInPlace pg attbyval fsstate.tupdesc fsstate.retrievedAttrs cell l entries =
      formTuples pg fsstate l := by
  induction l generalizing entries with
  | nil => rfl
  | cons i rest ih =>
    obtain ⟨hone, hrest⟩ := List.forall_mem_cons.mp hcell
    rw [formTuplesInPlace, formTuples, heapFormTuple, funext hone, fillEntries_eq h]
    rcases hfill : fillValues pg fsstate.tupdesc (fsstate.cell i) fsstate.retrievedAttrs 0
      (List.replicate fsstate.tupdesc.length none) with e | tuple
    · rfl
    · obtain ⟨hlen, hframe⟩ := fillValues_frame hfill
      rw [List.length_replicate] at hlen
      obtain ⟨entries', hfree, hentries, hnull⟩ :=
        @freeEntries_ofValue fsstate.tupdesc attbyval tuple hlen
      rw [Except.map]
      dsimp only
      rw [heapFormEntries_ofValue, hfree]
      dsimp only
      -- the next row finds freed datums only where it sets new ones
      have hready : Ready fsstate.tupdesc fsstate.retrievedAttrs entries' := by
        refine ⟨by rw [hentries, List.length_replicate], fun j => ?_⟩
        refine (hframe j).imp_right fun heq => ?_
        rw [List.getElem?_replicate] at heq ⊢
        split_ifs at heq ⊢ with hj
        · rw [hnull j heq]
          rfl
        · exact List.getElem?_eq_none (by rw [hentries]; omega)
      rw [ih hrest hready]

end

end TiberoFdw
