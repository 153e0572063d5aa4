import TiberoFdw.Lib.Separated
import TiberoFdw.Modify
import TiberoFdw.Plan
import TiberoFdw.TargetList
import TiberoFdw.WhereText

/-!
# Reading the statements back

The two statements that are sent to be prepared, as the remote side reads them: a SELECT with
its items, its table, the snapshot clause and its conditions, and an INSERT with its columns
and parameter markers. Names, options and constants may have any characters:

* what `tiberoGetForeignPlan` writes is read as the statement of the plan
  (`foreignPlan_readBack`);
* what `tiberoPlanForeignModify` writes is read as an INSERT with a marker for each of the
  columns (`foreignModify_readBack`).
-/

namespace TiberoFdw

open SqlText (isWordChar readQuoted)
open Terms (Term)
open Separated (ItemSyntax dropPrefix?_append)

/-! ## Statements -/

/-- A table of the remote side. -/
structure TableRef where
  owner : Option Text
  name : Text
  deriving DecidableEq

/-- What stands in a select list. -/
inductive SelectItem : Type where
  /-- the item of an empty list -/
  | null
  /-- a column, by its remote name -/
  | column (name : Text)
  deriving DecidableEq

/-- A SELECT statement as it is read from a text. -/
structure SelectStmt where
  items : List SelectItem
  table : TableRef
  /-- the clause `as of tsn ?` -/
  asOfTsn : Bool
  conditions : List (Term Operand)
  deriving DecidableEq

/-- An INSERT statement as it is read from a text. -/
structure InsertStmt where
  table : TableRef
  columns : List Text
  /-- the number of parameter markers -/
  markers : Nat
  deriving DecidableEq

/-! ## Reading -/

/-- Read a name, in double quotes or without. -/
def readIdentifier (text : Text) : Option (Text × Text) :=
  match text with
  | '"' :: rest => readQuoted '"' rest
  | _ =>
    if text.takeWhile isWordChar = [] then none
    else some (text.takeWhile isWordChar, text.dropWhile isWordChar)

/-- Read an item of a select list: the word `NULL`, or a column. -/
def readItem (text : Text) : Option (SelectItem × Text) :=
  if text.takeWhile isWordChar = "NULL".toList then some (.null, text.dropWhile isWordChar)
  else (readIdentifier text).map fun (name, rest) => (.column name, rest)

/-- Read the name of a table, with its owner if there is one. -/
def readTable (text : Text) : Option (TableRef × Text) :=
  (readIdentifier text).bind fun (first, rest) =>
    match rest with
    | '.' :: rest => (readIdentifier rest).map fun (name, rest) => (⟨some first, name⟩, rest)
    | _ => some (⟨none, first⟩, rest)

/-- Read the clause of the snapshot, if it is there. -/
def readAsOfTsn (text : Text) : Bool × Text :=
  match text.dropPrefix? " as of tsn ?".toList with
  | some rest => (true, rest)
  | none => (false, text)

/-- Read what follows the table: nothing, or the conditions. -/
def readWhere (text : Text) : Option (List (Term Operand)) :=
  if text = [] then some []
  else (text.dropPrefix? " WHERE ".toList).bind readConditions

/-- Read a SELECT statement: its items, its table with or without the snapshot, and its conditions.
-/
def readSelect (text : Text) : Option SelectStmt :=
  (text.dropPrefix? "SELECT ".toList).bind fun text =>
    (Separated.read readItem ", ".toList text).bind fun (items, text) =>
      (text.dropPrefix? " FROM ".toList).bind fun text =>
        (readTable text).bind fun (table, text) =>
          (readWhere (readAsOfTsn text).2).map fun conditions =>
            ⟨items, table, (readAsOfTsn text).1, conditions⟩

/-- Read a parameter marker. -/
def readMarker : Text → Option (Unit × Text)
  | '?' :: rest => some ((), rest)
  | _ => none

/-- Read the lists of columns and of markers. -/
def readColumnsAndMarkers (text : Text) : Option (List Text × Nat) :=
  (text.dropPrefix? "(".toList).bind fun text =>
    (Separated.read readIdentifier ", ".toList text).bind fun (columns, text) =>
      (text.dropPrefix? ") VALUES (".toList).bind fun text =>
        (Separated.read readMarker ", ".toList text).bind fun (markers, text) =>
          if text = ")".toList then some (columns, markers.length) else none

/-- Read an INSERT statement. Without columns there is nothing behind the table. -/
def readInsert (text : Text) : Option InsertStmt :=
  (text.dropPrefix? "INSERT INTO ".toList).bind fun text =>
    (readTable text).bind fun (table, text) =>
      if text = [] then some ⟨table, [], 0⟩
      else (readColumnsAndMarkers text).map fun (columns, markers) => ⟨table, columns, markers⟩

/-! ## Names -/

/-- What may follow a name. -/
def Ends (rest : Text) : Prop := ∀ c ∈ rest.head?, isWordChar c = false ∧ c ≠ '"'

theorem ends_nil : Ends [] := nofun

theorem ends_cons {c : Char} (hc : isWordChar c = false ∧ c ≠ '"') (rest : Text) :
    Ends (c :: rest) := by
  intro d hd
  obtain rfl := Option.some.inj hd
  exact hc

/-- A word ends where it is followed. -/
theorem takeWhile_word {w rest : Text} (hword : ∀ c ∈ w, isWordChar c = true) (hrest : Ends rest) :
    (w ++ rest).takeWhile isWordChar = w ∧ (w ++ rest).dropWhile isWordChar = rest := by
  rw [List.takeWhile_append_of_pos hword, List.dropWhile_append_of_pos hword]
  cases rest with
  | nil => exact ⟨List.append_nil w, rfl⟩
  | cons c rest => simp [(hrest c rfl).1]

/-- A name without quotes is a word in lower case. -/
theorem Postgres.identIsSafe_word {pg : Postgres} {name : Text} (h : pg.identIsSafe name = true) :
    (∃ c rest, name = c :: rest ∧ isIdentStart c = true) ∧ ∀ c ∈ name, isWordChar c = true := by
  simp only [Postgres.identIsSafe, Bool.and_eq_true] at h
  obtain ⟨⟨⟨-, hhead⟩, hall⟩, -⟩ := h
  refine ⟨?_, fun c hc => isWordChar_of_isIdentChar (List.all_eq_true.mp hall c hc)⟩
  rcases name with _ | ⟨c, rest⟩
  · cases hhead
  · exact ⟨c, rest, rfl, by simpa using hhead⟩

theorem not_quote_of_isWordChar {c : Char} (hc : isWordChar c = true) : c ≠ '"' := by
  rintro rfl
  exact absurd hc (by decide)

/-- Behind anything but a double quote. -/
theorem readIdentifier_word {c : Char} {text : Text} (hc : isWordChar c = true) :
    readIdentifier (c :: text) =
      some ((c :: text).takeWhile isWordChar, (c :: text).dropWhile isWordChar) := by
  unfold readIdentifier
  split
  · rename_i heq
    exact absurd (List.cons.inj heq).1 (not_quote_of_isWordChar hc)
  · rw [if_neg]
    rw [List.takeWhile_cons_of_pos hc]
    exact List.cons_ne_nil _ _

/-- **A name is read back**, whatever characters it has: those that are no plain name are quoted,
and a quote in them is doubled. -/
theorem readIdentifier_quoteIdentifier (pg : Postgres) (name : Text) {rest : Text}
    (hrest : Ends rest) : readIdentifier (pg.quoteIdentifier name ++ rest) = some (name, rest) := by
  rw [Postgres.quoteIdentifier]
  by_cases hsafe : pg.identIsSafe name = true
  · rw [if_pos hsafe]
    obtain ⟨⟨c, tail, rfl, -⟩, hword⟩ := Postgres.identIsSafe_word hsafe
    have hread := takeWhile_word hword hrest
    rw [List.cons_append] at hread ⊢
    rw [readIdentifier_word (hword c (List.mem_cons_self ..)), hread.1, hread.2]
  · rw [if_neg hsafe, List.cons_append, List.append_assoc, List.singleton_append]
    apply SqlText.readQuoted_escape
    intro hhead
    exact (hrest _ hhead).2 rfl

theorem quoteIdentifier_ne (pg : Postgres) (name : Text) : pg.quoteIdentifier name ≠ [] := by
  rw [Postgres.quoteIdentifier]
  split_ifs with hsafe
  · obtain ⟨⟨c, rest, rfl, -⟩, -⟩ := Postgres.identIsSafe_word hsafe
    exact List.cons_ne_nil _ _
  · exact List.cons_ne_nil _ _

/-- Columns are separated by a comma. -/
theorem identifierSyntax (pg : Postgres) :
    ItemSyntax readIdentifier ", ".toList pg.quoteIdentifier Ends fun _ => True where
  text_ne name _ := quoteIdentifier_ne pg name
  read_text name _ _ hrest := readIdentifier_quoteIdentifier pg name hrest
  follows_sep rest := ends_cons (by decide) (' ' :: rest)

theorem markerSyntax :
    ItemSyntax readMarker ", ".toList (fun _ => "?".toList) (fun _ => True) fun _ => True where
  text_ne _ _ := List.cons_ne_nil _ _
  read_text _ _ _ _ := rfl
  follows_sep _ := trivial

/-! ## Select lists -/

/-- The text of an item. -/
def SelectItem.text (pg : Postgres) : SelectItem → Text
  | null => "NULL".toList
  | column name => pg.quoteIdentifier name

theorem readItem_null {rest : Text} (hrest : Ends rest) :
    readItem ("NULL".toList ++ rest) = some (.null, rest) := by
  have hword : ∀ c ∈ "NULL".toList, isWordChar c = true :=
    List.all_eq_true.mp (by decide : "NULL".toList.all isWordChar = true)
  have hread := takeWhile_word hword hrest
  rw [readItem, hread.1, hread.2, if_pos rfl]

/-- A column is never taken for the word `NULL`. -/
theorem readItem_column (pg : Postgres) (name : Text) {rest : Text} (hrest : Ends rest) :
    readItem (pg.quoteIdentifier name ++ rest) = some (.column name, rest) := by
  have hread := readIdentifier_quoteIdentifier pg name hrest
  rw [readItem, if_neg, hread]
  · rfl
  · rw [Postgres.quoteIdentifier]
    split_ifs with hsafe
    · obtain ⟨⟨c, tail, rfl, hc⟩, hword⟩ := Postgres.identIsSafe_word hsafe
      rw [(takeWhile_word hword hrest).1]
      -- a name without quotes is in lower case
      intro heq
      obtain rfl : c = 'N' := (List.cons.inj heq).1
      exact absurd hc (by decide)
    · rw [List.cons_append, List.takeWhile_cons_of_neg (by decide)]
      exact fun heq => List.cons_ne_nil _ _ heq.symm

theorem itemSyntax (pg : Postgres) :
    ItemSyntax readItem ", ".toList (SelectItem.text pg) Ends fun _ => True where
  text_ne item _ := by
    cases item with
    | null => exact List.cons_ne_nil _ _
    | column name => exact quoteIdentifier_ne pg name
  read_text item _ _ hrest := by
    cases item with
    | null => exact readItem_null hrest
    | column name => exact readItem_column pg name hrest
  follows_sep rest := ends_cons (by decide) (' ' :: rest)

/-! ## Tables -/

/-- The remote table of a foreign table. -/
def remoteTable (rel : Relation) : TableRef :=
  ⟨lastOption "owner_name" rel.options, (lastOption "table_name" rel.options).getD rel.relname⟩

/-- The text of a table. -/
def TableRef.text (pg : Postgres) (table : TableRef) : Text :=
  match table.owner with
  | none => pg.quoteIdentifier table.name
  | some owner => pg.quoteIdentifier owner ++ '.' :: pg.quoteIdentifier table.name

/-- The text of the snapshot clause. -/
def asOfTsnText (asOfTsn : Bool) : Text := if asOfTsn then " as of tsn ?".toList else []

theorem relationText_eq (context : DeparseContext) (rel : Relation) (useFbQuery : Bool) :
    relationText context rel useFbQuery = (remoteTable rel).text context.pg ++
      asOfTsnText (useFbQuery && !context.isolationUsesXactSnapshot) := by
  rw [relationText, TableRef.text, asOfTsnText, remoteTable]
  rcases lastOption "owner_name" rel.options with _ | owner
  · rfl
  · rfl

/-- **A table is read back**, with its owner. -/
theorem readTable_text (pg : Postgres) (table : TableRef) {rest : Text} (hrest : Ends rest)
    (hdot : rest.head? ≠ some '.') : readTable (table.text pg ++ rest) = some (table, rest) := by
  obtain ⟨owner, name⟩ := table
  rcases owner with _ | owner
  · rw [TableRef.text, readTable, readIdentifier_quoteIdentifier pg name hrest, Option.bind_some]
    dsimp only
    rcases rest with _ | ⟨c, rest⟩
    · rfl
    · have hc : c ≠ '.' := fun h => hdot (by rw [h, List.head?_cons])
      split
      · rename_i heq
        exact absurd (List.cons.inj heq).1 hc
      · rfl
  · have howner := readIdentifier_quoteIdentifier pg owner
      (ends_cons (c := '.') (by decide) (pg.quoteIdentifier name ++ rest))
    rw [TableRef.text, readTable, List.append_assoc, List.cons_append, howner, Option.bind_some]
    change (readIdentifier (pg.quoteIdentifier name ++ rest)).map _ = _
    rw [readIdentifier_quoteIdentifier pg name hrest, Option.map_some]

/-! ## SELECT -/

/-- The text of a SELECT statement, from the texts of its items and conditions. -/
def SelectStmt.text (pg : Postgres) (stmt : SelectStmt) : Text :=
  "SELECT ".toList ++ (List.intercalate ", ".toList (stmt.items.map (SelectItem.text pg)) ++
    (" FROM ".toList ++ (stmt.table.text pg ++ (asOfTsnText stmt.asOfTsn ++
      whereText (stmt.conditions.map (Term.text (Operand.text pg)))))))

theorem SelectStmt.text_mk (pg : Postgres) (items : List SelectItem) (table : TableRef)
    (asOfTsn : Bool) (conditions : List (Term Operand)) :
    SelectStmt.text pg ⟨items, table, asOfTsn, conditions⟩ =
      "SELECT ".toList ++ (List.intercalate ", ".toList (items.map (SelectItem.text pg)) ++
        (" FROM ".toList ++ (table.text pg ++ (asOfTsnText asOfTsn ++
          whereText (conditions.map (Term.text (Operand.text pg))))))) := rfl

theorem readAsOfTsn_text (asOfTsn : Bool) {rest : Text}
    (hrest : rest.dropPrefix? " as of tsn ?".toList = none) :
    readAsOfTsn (asOfTsnText asOfTsn ++ rest) = (asOfTsn, rest) := by
  cases asOfTsn
  · rw [asOfTsnText, if_neg (by decide), List.nil_append, readAsOfTsn, hrest]
  · rw [asOfTsnText, if_pos rfl, readAsOfTsn, dropPrefix?_append]

/-- What a WHERE clause starts with. -/
theorem whereText_cases (texts : List Text) :
    (texts = [] ∧ whereText texts = []) ∨ ∃ rest, whereText texts = " WHERE ".toList ++ rest := by
  rcases texts with _ | ⟨t, rest⟩
  · exact .inl ⟨rfl, rfl⟩
  · exact .inr ⟨_, rfl⟩

/-- The trees of conditions that are written. -/
def AreWritten (conditions : List (Term Operand)) : Prop :=
  ∀ t ∈ conditions, t.Forall Operand.IsWritten
    (Terms.IsPrefixName SqlText.isOperatorChar) Terms.IsInfixName

theorem whereText_cons (t : Text) (rest : List Text) : whereText (t :: rest) =
    " WHERE ".toList ++ List.intercalate " AND ".toList ((t :: rest).map parenthesised) := rfl

theorem readWhere_text (pg : Postgres) {conditions : List (Term Operand)}
    (hwritten : AreWritten conditions) :
    readWhere (whereText (conditions.map (Term.text (Operand.text pg)))) = some conditions := by
  rcases conditions with _ | ⟨t, rest⟩
  · rfl
  · have hread := Terms.read_conditionsText (Operand.operandSyntax pg) (List.cons_ne_nil t rest)
      hwritten
    have htext : whereText ((t :: rest).map (Term.text (Operand.text pg))) =
        " WHERE ".toList ++ Terms.conditionsText (Operand.text pg) (t :: rest) := by
      have hmap : ((t :: rest).map (Term.text (Operand.text pg))).map parenthesised =
          (t :: rest).map fun t => '(' :: (t.text (Operand.text pg) ++ [')']) := List.map_map
      rw [Terms.conditionsText, ← hmap, List.map_cons, whereText_cons]
    have hne : " WHERE ".toList ++ Terms.conditionsText (Operand.text pg) (t :: rest) ≠ [] :=
      List.append_ne_nil_of_left_ne_nil (by decide) _
    rw [htext, readWhere, if_neg hne, dropPrefix?_append, Option.bind_some]
    exact hread

/-- What follows a table: no period, and no snapshot clause but the one of the statement. -/
theorem whereText_follows (texts : List Text) :
    (whereText texts).dropPrefix? " as of tsn ?".toList = none ∧
      (whereText texts = [] ∨ ∃ rest, whereText texts = ' ' :: rest) := by
  rcases whereText_cases texts with ⟨-, h⟩ | ⟨rest, h⟩
  · rw [h]
    exact ⟨rfl, .inl rfl⟩
  · rw [h]
    exact ⟨by simp [List.dropPrefix?], .inr ⟨_, rfl⟩⟩

theorem asOfTsnText_follows (asOfTsn : Bool) {rest : Text}
    (hrest : rest = [] ∨ ∃ rest', rest = ' ' :: rest') :
    Ends (asOfTsnText asOfTsn ++ rest) ∧ (asOfTsnText asOfTsn ++ rest).head? ≠ some '.' := by
  have hall : asOfTsnText asOfTsn ++ rest = [] ∨ ∃ after, asOfTsnText asOfTsn ++ rest =
      ' ' :: after := by
    cases asOfTsn
    · exact hrest
    · exact .inr ⟨_, rfl⟩
  rcases hall with h | ⟨after, h⟩
  · rw [h]
    exact ⟨ends_nil, nofun⟩
  · rw [h]
    exact ⟨ends_cons (by decide) after, by simp⟩

/-- **A SELECT statement is read back** from its text. The parts are read one after the other, and
what a part is followed by can never be taken for more of it. -/
theorem readSelect_text (pg : Postgres) {stmt : SelectStmt} (hitems : stmt.items ≠ [])
    (hwritten : AreWritten stmt.conditions) : readSelect (stmt.text pg) = some stmt := by
  obtain ⟨items, table, asOfTsn, conditions⟩ := stmt
  obtain ⟨hnoTsn, hblank⟩ := whereText_follows (conditions.map (Term.text (Operand.text pg)))
  obtain ⟨hends, hdot⟩ := asOfTsnText_follows asOfTsn hblank
  have hfrom : ∀ rest, Ends (" FROM ".toList ++ rest) ∧
      (" FROM ".toList ++ rest).dropPrefix? ", ".toList = none :=
    fun rest => ⟨ends_cons (by decide) ("FROM ".toList ++ rest), by simp [List.dropPrefix?]⟩
  have hlist := fun rest => Separated.read_text (itemSyntax pg) hitems (fun _ _ => trivial)
    (hfrom rest).1 (hfrom rest).2
  rw [SelectStmt.text_mk, readSelect, dropPrefix?_append, Option.bind_some, hlist, Option.bind_some]
  dsimp only
  rw [dropPrefix?_append, Option.bind_some, readTable_text pg table hends hdot, Option.bind_some]
  dsimp only
  rw [readAsOfTsn_text asOfTsn hnoTsn, readWhere_text pg hwritten, Option.map_some]

/-! ## The statement of a plan -/

/-- The remote name of a column, by its number. -/
def remoteName (rel : Relation) (attnum : Nat) : Text :=
  ((tupleDescAttr rel.tupdesc (attnum - 1)).map remoteColumnName).getD []

/-- The items that a scan asks for. -/
def selectItems (rel : Relation) (attrsUsed : Bitmapset) : List SelectItem :=
  if (fetchedAttrs attrsUsed rel).isEmpty then [.null]
  else (fetchedAttrs attrsUsed rel).map fun attnum => .column (remoteName rel attnum)

theorem selectItems_ne (rel : Relation) (attrsUsed : Bitmapset) :
    selectItems rel attrsUsed ≠ [] := by
  rw [selectItems]
  split_ifs with hempty
  · exact List.cons_ne_nil _ _
  · exact List.map_eq_nil_iff.not.mpr (by simpa using hempty)

theorem columnRef_eq (pg : Postgres) (rtindex : Nat) {rel : Relation} {attrsUsed : Bitmapset}
    {attnum : Nat} (h : attnum ∈ fetchedAttrs attrsUsed rel) :
    columnRef pg rtindex rel false attnum = pg.quoteIdentifier (remoteName rel attnum) := by
  obtain ⟨attr, hattr, htext⟩ := columnRef_of_mem pg rtindex h
  rw [columnRef, htext, remoteName, tupleDescAttr, hattr]
  rfl

/-- A target list without `ctid` is the text of the items. -/
theorem targetText_eq (pg : Postgres) (rtindex : Nat) (rel : Relation) {attrsUsed : Bitmapset}
    (hctid : usesCtid attrsUsed = false) :
    targetText pg rtindex rel attrsUsed =
      List.intercalate ", ".toList ((selectItems rel attrsUsed).map (SelectItem.text pg)) := by
  have hattrs : targetAttrs rel attrsUsed = (fetchedAttrs attrsUsed rel).map Int.ofNat := by
    simp [targetAttrs, hctid]
  have hitems : targetItems pg rtindex rel attrsUsed =
      (fetchedAttrs attrsUsed rel).map fun attnum =>
        pg.quoteIdentifier (remoteName rel attnum) := by
    rw [targetItems, hctid, if_neg (by decide), List.append_nil]
    exact List.map_congr_left fun attnum h => columnRef_eq pg rtindex h
  rw [targetText, hattrs, hitems, selectItems]
  rcases hfetched : fetchedAttrs attrsUsed rel with _ | ⟨attnum, rest⟩
  · rfl
  · rw [List.isEmpty_cons, if_neg (by simp), if_neg (by decide), List.map_map]
    rfl

/-- The statement that a scan of the relation stands for. -/
def scanStmt (context : DeparseContext) (attrsUsed : Bitmapset) (exprs : List Node) :
    SelectStmt where
  items := selectItems (context.root.rtFetch context.foreignrel.relid) attrsUsed
  table := remoteTable (context.root.rtFetch context.scanrel.relid)
  asOfTsn := context.useFbQuery && !context.isolationUsesXactSnapshot
  conditions := exprs.map (conditionTree context)

theorem selectText_eq {context : DeparseContext} {attrsUsed : Bitmapset}
    (hrelids : context.scanrel.relids.length ≤ 1) (hctid : usesCtid attrsUsed = false)
    (exprs : List Node) :
    selectText context attrsUsed
        ((exprs.map (conditionTree context)).map (Term.text (Operand.text context.pg))) =
      (scanStmt context attrsUsed exprs).text context.pg := by
  rw [scanStmt, SelectStmt.text_mk, ← targetText_eq context.pg context.foreignrel.relid _ hctid]
  change "SELECT ".toList ++ (_ ++ (" FROM ".toList ++ (relationText _ _ _ ++
    ((if 1 < context.scanrel.relids.length then _ else []) ++ _)))) = _
  rw [if_neg (Nat.not_lt.mpr hrelids), List.nil_append, relationText_eq, List.append_assoc]

section

variable {context : DeparseContext} {baserel : RelOptInfo}
  {valueOf : Oid → Datum → Option NumericValue} {round : Oid → ℚ → ℚ}

/-- **What is deparsed is read as the statement**: its items, its table, the snapshot clause
and the trees of its conditions, in order. -/
theorem deparseSelectStmt_readBack (hbase : context.OnBaseRel baserel)
    (hrelids : context.scanrel.relids.length ≤ 1) (hnames : context.pg.NamesOperators)
    (hprints : PrintsNumbers context.pg valueOf round) {attrsUsed : Bitmapset}
    (hctid : usesCtid attrsUsed = false) {exprs : List Node}
    (hreadable : ∀ e ∈ exprs, IsReadable context valueOf e) :
    ∃ text, deparseSelectStmtForRel context attrsUsed exprs RemoteSqlInfo.start =
        .ok ((fetchedAttrs attrsUsed (context.root.rtFetch context.foreignrel.relid)).map Int.ofNat)
          ⟨0, text, []⟩ ∧
      readSelect text = some (scanStmt context attrsUsed exprs) := by
  have hreads : ∀ e ∈ exprs, Reads context e :=
    fun e he => (hreadable e he).reads hbase hrelids hnames hprints
  have hall : List.Forall₂ (fun e t => Renders (deparseExpr context e) (some t)) exprs
      ((exprs.map (conditionTree context)).map (Term.text (Operand.text context.pg))) := by
    rw [List.forall₂_map_right_iff, List.forall₂_map_right_iff, List.forall₂_same]
    exact fun e he => (hreads e he).renders
  have hwritten : AreWritten (scanStmt context attrsUsed exprs).conditions := by
    intro t ht
    obtain ⟨e, he, rfl⟩ := List.mem_map.mp ht
    exact (hreads e he).wellFormed
  have hattrs : targetAttrs (context.root.rtFetch context.foreignrel.relid) attrsUsed =
      (fetchedAttrs attrsUsed (context.root.rtFetch context.foreignrel.relid)).map Int.ofNat := by
    simp [targetAttrs, hctid]
  have hrun := deparseSelectStmtForRel_run hbase attrsUsed hall
  rw [selectText_eq hrelids hctid, hattrs] at hrun
  exact ⟨_, hrun, readSelect_text context.pg (selectItems_ne _ _) hwritten⟩

end

/-- The fields of a plan: the clauses in the two lists of the loop, and what was deparsed. -/
theorem tiberoGetForeignPlan_ok {pg : Postgres} {root : PlannerInfo} {baserel : RelOptInfo}
    {fpinfo : TbFdwRelationInfo} {isolationUsesXactSnapshot : Bool}
    {scanClauses : List RestrictInfo} {plan : ForeignScan}
    (h : tiberoGetForeignPlan pg root baserel fpinfo isolationUsesXactSnapshot scanClauses =
      .ok plan) :
    baserel.isSimpleRel = true ∧
      scanClauses.foldl (distributeClause pg baserel fpinfo) ([], []) =
        (plan.fdwRecheckQuals, plan.localExprs) ∧
      plan.fetchSize = fpinfo.fetchSize ∧
      ∃ s, s.buf = plan.selectSql ∧ deparseSelectStmtForRel
          (selectContext pg root baserel fpinfo.useFbQuery isolationUsesXactSnapshot)
          fpinfo.attrsUsed plan.fdwRecheckQuals RemoteSqlInfo.start =
        .ok plan.retrievedAttrs s := by
  rw [tiberoGetForeignPlan] at h
  split_ifs at h with hsimple
  rcases hexprs : scanClauses.foldl (distributeClause pg baserel fpinfo) ([], []) with
    ⟨remoteExprs, localExprs⟩
  rw [hexprs] at h
  dsimp only at h
  rcases hrun : deparseSelectStmtForRel (selectContext pg root baserel fpinfo.useFbQuery
      isolationUsesXactSnapshot) fpinfo.attrsUsed remoteExprs RemoteSqlInfo.start with
    ⟨retrievedAttrs, s⟩ | ⟨err, s⟩ <;> rw [hrun] at h <;> cases h
  exact ⟨hsimple, rfl, rfl, s, rfl, hrun⟩

/-- What holds of a plan whose text is read back. -/
structure PlanReadBack (pg : Postgres) (root : PlannerInfo) (baserel : RelOptInfo)
    (fpinfo : TbFdwRelationInfo) (isolationUsesXactSnapshot : Bool) (plan : ForeignScan) :
    Prop where
  read : readSelect plan.selectSql = some (scanStmt
    (selectContext pg root baserel fpinfo.useFbQuery isolationUsesXactSnapshot) fpinfo.attrsUsed
    plan.fdwRecheckQuals)
  /-- the columns are those of the attributes that the scan retrieves, in order -/
  retrieved : plan.retrievedAttrs =
    (fetchedAttrs fpinfo.attrsUsed (root.rtFetch baserel.relid)).map Int.ofNat

section

variable {pg : Postgres} {root : PlannerInfo} {baserel : RelOptInfo} {fpinfo : TbFdwRelationInfo}
  {isolationUsesXactSnapshot : Bool} {scanClauses : List RestrictInfo} {plan : ForeignScan}
  {valueOf : Oid → Datum → Option NumericValue} {round : Oid → ℚ → ℚ}

theorem PlanReadBack.of_plan (hrelids : baserel.relids.length ≤ 1) (hnames : pg.NamesOperators)
    (hprints : PrintsNumbers pg valueOf round) (hctid : usesCtid fpinfo.attrsUsed = false)
    (hplan : tiberoGetForeignPlan pg root baserel fpinfo isolationUsesXactSnapshot scanClauses =
      .ok plan)
    (hreadable : ∀ e ∈ plan.fdwRecheckQuals, IsReadable
      (selectContext pg root baserel fpinfo.useFbQuery isolationUsesXactSnapshot) valueOf e) :
    PlanReadBack pg root baserel fpinfo isolationUsesXactSnapshot plan := by
  obtain ⟨hsimple, -, -, s, hsql, hrun⟩ := tiberoGetForeignPlan_ok hplan
  have hbase := selectContext_onBaseRel pg root hsimple fpinfo.useFbQuery isolationUsesXactSnapshot
  obtain ⟨text, hdeparse, hread⟩ :=
    deparseSelectStmt_readBack hbase hrelids hnames hprints hctid hreadable
  obtain ⟨hattrs, hs⟩ := Outcome.ok.inj (hrun.symm.trans hdeparse)
  refine ⟨?_, hattrs⟩
  rw [← hsql, hs]
  exact hread

/-- **The text of a plan is read back** as its statement, whatever characters the names, the
options and the constants have: the items, the table, the snapshot clause and the trees of the
conditions. The conditions that are sent are readable, and `ctid` is not asked for. -/
theorem foreignPlan_readBack (hrelids : baserel.relids.length ≤ 1) (hnames : pg.NamesOperators)
    (hprints : PrintsNumbers pg valueOf round) (hctid : usesCtid fpinfo.attrsUsed = false)
    (hplan : tiberoGetForeignPlan pg root baserel fpinfo isolationUsesXactSnapshot scanClauses =
      .ok plan)
    (hreadable : ∀ e ∈ plan.fdwRecheckQuals, IsReadable
      (selectContext pg root baserel fpinfo.useFbQuery isolationUsesXactSnapshot) valueOf e) :
    PlanReadBack pg root baserel fpinfo isolationUsesXactSnapshot plan :=
  .of_plan hrelids hnames hprints hctid hplan hreadable

end

/-- The planner information of the scan with three conditions. -/
def threeConditionsInfo : TbFdwRelationInfo :=
  { TbFdwRelationInfo.default with
    remoteConds := [⟨2, textCondition 98 "x", false⟩]
    localConds := [⟨1, .boolExpr [textCondition 98 "x"], false⟩]
    attrsUsed := [8] }

/-- `SELECT c FROM t WHERE ((c = 'x'))`. -/
theorem threeConditions_readBack : ∃ plan,
    tiberoGetForeignPlan .withMinus ⟨fun _ => textTable⟩ threeConditions threeConditionsInfo false
        threeConditions.baserestrictinfo = .ok plan ∧
      PlanReadBack .withMinus ⟨fun _ => textTable⟩ threeConditions threeConditionsInfo false
        plan := by
  have hplan : tiberoGetForeignPlan .withMinus ⟨fun _ => textTable⟩ threeConditions
      threeConditionsInfo false threeConditions.baserestrictinfo = .ok _ := rfl
  refine ⟨_, hplan, foreignPlan_readBack (by decide) withMinus_namesOperators
    withMinus_printsNumbers (by decide) hplan fun e he => ?_⟩
  obtain rfl := List.mem_singleton.mp he
  have hc : IsReadable (selectContext .withMinus ⟨fun _ => textTable⟩ threeConditions false false)
      smallValueOf (.var ⟨1, 1, TEXTOID, defaultCollationOid, 0⟩) :=
    .column ⟨by decide, rfl⟩ (by decide) rfl
  have hx : IsReadable (selectContext .withMinus ⟨fun _ => textTable⟩ threeConditions false false)
      smallValueOf (.const ⟨TEXTOID, defaultCollationOid, .cstring "x".toList, false⟩) :=
    .string rfl (by decide) (by decide)
  exact .binary rfl rfl hc hx

/-! ## INSERT -/

/-- The lists of columns and of markers. -/
theorem readColumnsAndMarkers_text (pg : Postgres) {columns : List Text} (hne : columns ≠ []) :
    readColumnsAndMarkers ('(' :: (List.intercalate ", ".toList (columns.map pg.quoteIdentifier) ++
        (") VALUES (".toList ++ (List.intercalate ", ".toList
          (columns.map fun _ => "?".toList) ++ [')'])))) = some (columns, columns.length) := by
  have hcolumns := fun rest => Separated.read_text (identifierSyntax pg) hne
    (fun _ _ => trivial) (ends_cons (c := ')') (by decide) (" VALUES (".toList ++ rest))
    (by simp [List.dropPrefix?])
  have hmarkers := Separated.read_text markerSyntax
    (List.map_eq_nil_iff.not.mpr hne : columns.map (fun _ => ()) ≠ []) (fun _ _ => trivial)
    trivial (rfl : List.dropPrefix? [')'] ", ".toList = none)
  rw [List.map_map] at hmarkers
  have hopen : ∀ rest : Text, ('(' :: rest).dropPrefix? "(".toList = some rest :=
    fun rest => dropPrefix?_append ['('] rest
  have hsplit : ∀ rest : Text, ") VALUES (".toList ++ rest = ')' :: (" VALUES (".toList ++ rest) :=
    fun _ => rfl
  rw [readColumnsAndMarkers, hopen, Option.bind_some, hsplit, hcolumns, Option.bind_some]
  dsimp only
  rw [← hsplit, dropPrefix?_append, Option.bind_some]
  change (Separated.read readMarker ", ".toList (List.intercalate ", ".toList
    (columns.map ((fun _ => "?".toList) ∘ fun _ => ())) ++ [')'])).bind _ = _
  rw [hmarkers, Option.bind_some]
  dsimp only
  rw [if_pos (by decide), List.length_map]

/-- The statement of an INSERT into these columns. -/
def insertStmt (rel : Relation) (columns : List (FormPgAttribute × Nat)) : InsertStmt where
  table := remoteTable rel
  columns := columns.map fun column => remoteColumnName column.1
  markers := columns.length

theorem readInsert_text (context : DeparseContext) (rel : Relation)
    (columns : List (FormPgAttribute × Nat)) :
    readInsert (insertText context rel columns) = some (insertStmt rel columns) := by
  have htable := fun rest hrest hdot =>
    @readTable_text context.pg (remoteTable rel) rest hrest hdot
  have htext : insertText context rel columns = "INSERT INTO ".toList ++
      ((remoteTable rel).text context.pg ++ (if columns.isEmpty then []
        else '(' :: (List.intercalate ", ".toList
            ((columns.map fun column => remoteColumnName column.1).map
              context.pg.quoteIdentifier) ++
          (") VALUES (".toList ++ (List.intercalate ", ".toList
            ((columns.map fun column => remoteColumnName column.1).map fun _ => "?".toList) ++
              [')'])))) ) := by
    rw [List.map_map, List.map_map]
    change "INSERT INTO ".toList ++ (relationText context rel false ++ _) = _
    rw [relationText_eq, Bool.false_and, asOfTsnText, if_neg (by decide), List.append_nil]
    rfl
  rw [htext, readInsert, dropPrefix?_append, Option.bind_some]
  rcases columns with _ | ⟨column, rest⟩
  · rw [List.isEmpty_nil, if_pos rfl, htable [] ends_nil nofun, Option.bind_some]
    rfl
  · have hlists := @readColumnsAndMarkers_text context.pg
      ((column :: rest).map fun column => remoteColumnName column.1) (List.cons_ne_nil _ _)
    rw [List.isEmpty_cons, if_neg (by decide), htable _ (ends_cons (by decide) _) (by simp),
      Option.bind_some]
    dsimp only
    rw [if_neg (List.cons_ne_nil _ _), hlists, Option.map_some, List.length_map]
    rfl

/-- **The text of an INSERT is read back**: the table, the columns that are not dropped, and a
marker for each of them. It holds of every relation, so the text of an INSERT is never malformed,
whatever its names contain. -/
theorem foreignModify_readBack (context : DeparseContext) (rtindex : Nat) :
    ∃ plan s, tiberoPlanForeignModify context .insert rtindex RemoteSqlInfo.start =
        .ok (some plan) s ∧
      readInsert plan.query = some (insertStmt (context.root.rtFetch rtindex)
        (liveColumns (context.root.rtFetch rtindex).tupdesc)) ∧
      plan.targetAttrs = (liveColumns (context.root.rtFetch rtindex).tupdesc).map Prod.snd := by
  obtain ⟨s, hrun⟩ := tiberoPlanForeignModify_run context rtindex
  exact ⟨_, s, hrun, readInsert_text context _ _, insertTargets_eq _⟩

end TiberoFdw
