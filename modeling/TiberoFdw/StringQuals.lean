import TiberoFdw.Lib.Truth
import TiberoFdw.Render

/-!
# String comparisons on the remote side

Two evaluators of a list of comparisons of text columns and text constants:
PostgreSQL's, on the expression trees and the fetched row, and Tibero's, on the
text that `append_conditions` writes and the remote row. The second one reads
the text: tokens, parentheses, then conditions joined by `AND`. They use one
comparison of non-null strings, given as a parameter.
-/

namespace TiberoFdw

open SqlText (Token Tree Lexes Reads)

/-- The comparison operators, by name. -/
def comparisonNames : List Text :=
  ["=".toList, "<>".toList, "<".toList, "<=".toList, ">".toList, ">=".toList]

/-- A comparison of non-null strings, for each operator name. -/
abbrev StringComparison := Text → Text → Text → Bool

/-! ## The qualifiers -/

/-- A column of type text of the scanned table. -/
def IsTextColumn (baserel : RelOptInfo) (rel : Relation) (v : Var) : Prop :=
  v.varno = baserel.relid ∧ v.varlevelsup = 0 ∧ 0 < v.varattno ∧
    ∃ attr, rel.tupdesc[v.varattno.toNat - 1]? = some attr ∧ attr.atttypid = TEXTOID

/-- A text column or a text constant. -/
def IsTextOperand (baserel : RelOptInfo) (rel : Relation) : Node → Prop
  | .var v => IsTextColumn baserel rel v
  | .const c => c.consttype = TEXTOID
  | _ => False

/-- A comparison of two text operands. -/
def IsStringQual (pg : Postgres) (baserel : RelOptInfo) (rel : Relation) : Node → Prop
  | .opExpr opno _ _ [lhs, rhs] =>
    (pg.pgOperator opno).oprkind = .both ∧ operatorName (pg.pgOperator opno) ∈ comparisonNames ∧
      IsTextOperand baserel rel lhs ∧ IsTextOperand baserel rel rhs
  | _ => False

/-- The string in a text constant. -/
def constString (pg : Postgres) (c : Const) : Option Text :=
  if c.constisnull then none
  else some (pg.outputFunctionCall (pg.pgType c.consttype).typoutput c.constvalue)

/-- The operand is the empty string, as a constant. -/
def isEmptyConstant (pg : Postgres) : Node → Bool
  | .const c => constString pg c == some []
  | _ => false

/-- The qualifier compares with the empty string. -/
def comparesWithEmpty (pg : Postgres) : Node → Bool
  | .opExpr _ _ _ args => args.any (isEmptyConstant pg)
  | _ => false

/-! ## PostgreSQL's evaluation -/

/-- A remote row: the value of each column, by the name it is written with.
Tibero has no empty string. -/
structure RemoteRow where
  value : Token → Option Text
  nonempty : ∀ name, value name ≠ some []

/-- The value of an attribute in the fetched row. -/
def fetchedValue (pg : Postgres) (rel : Relation) (row : RemoteRow) (varattno : Int) :
    Option Text :=
  (tupleDescAttr rel.tupdesc (varattno.toNat - 1)).bind fun attr =>
    row.value (pg.identToken (remoteColumnName attr))

/-- The value of a column or a constant on a row that was fetched. -/
def localOperand (pg : Postgres) (rel : Relation) (row : RemoteRow) : Node → Option Text
  | .var v => fetchedValue pg rel row v.varattno
  | .const c => constString pg c
  | _ => none

/-- What PostgreSQL's evaluation of a comparison yields. -/
def localTruth (pg : Postgres) (compare : StringComparison) (rel : Relation) (row : RemoteRow) :
    Node → Truth
  | .opExpr opno _ _ [lhs, rhs] =>
    Truth.lift (compare (pg.pgOperator opno).oprname) (localOperand pg rel row lhs)
      (localOperand pg rel row rhs)
  | _ => none

/-- PostgreSQL keeps the fetched row. -/
def localKeeps (pg : Postgres) (compare : StringComparison) (rel : Relation) (row : RemoteRow)
    (quals : List Node) : Bool :=
  Truth.keeps (Truth.all (quals.map (localTruth pg compare rel row)))

/-! ## Tibero's evaluation -/

/-- The value of an operand in SQL text; `none` when it is no operand. -/
def remoteOperand (row : RemoteRow) : Tree → Option (Option Text)
  | .leaf (.word s) => some (if s = "NULL".toList then none else row.value (.word s))
  | .leaf (.ident s) => some (row.value (.ident s))
  | .leaf (.str s) => some (if s = [] then none else some s)
  | _ => none

/-- The value of a condition in SQL text; `none` when it is no condition. -/
def remoteTruth (compare : StringComparison) (row : RemoteRow) : Tree → Option Truth
  | .group [.group [lhs, .leaf (.op name), rhs]] =>
    (remoteOperand row lhs).bind fun a =>
      (remoteOperand row rhs).map fun b => Truth.lift (compare name) a b
  | _ => none

/-- The values of conditions joined by `AND`. -/
def remoteTruths (compare : StringComparison) (row : RemoteRow) : List Tree → Option (List Truth)
  | [] => some []
  | [condition] => (remoteTruth compare row condition).map fun t => [t]
  | condition :: .leaf (.word ['A', 'N', 'D']) :: rest =>
    (remoteTruth compare row condition).bind fun t =>
      (remoteTruths compare row rest).map fun ts => t :: ts
  | _ => none

/-- Tibero keeps the row: the verdict of a condition text. -/
def textKeeps (compare : StringComparison) (row : RemoteRow) (text : Text) : Option Bool :=
  (SqlText.tokens text).bind fun toks =>
    (SqlText.trees toks).bind fun ts =>
      (remoteTruths compare row ts).map fun truths => Truth.keeps (Truth.all truths)

/-- Tibero's verdict on the row under the conditions that are deparsed for the
list; without conditions the text is empty and keeps every row. -/
def remoteKeeps (context : DeparseContext) (compare : StringComparison) (row : RemoteRow)
    (quals : List Node) : Option Bool :=
  match appendConditions context quals RemoteSqlInfo.start with
  | .ok _ s => textKeeps compare row s.buf
  | .raise _ _ => none

/-! ## One operand -/

/-- The text is one token, which is read as an operand of that value. -/
def OperandReads (row : RemoteRow) (text : Text) (value : Option Text) : Prop :=
  ∃ tok, Lexes text [tok] ∧ tok ≠ .sym '(' ∧ tok ≠ .sym ')' ∧
    remoteOperand row (.leaf tok) = some value

/-- A column name is read as the column, never as the keyword NULL. -/
theorem identifier_read (pg : Postgres) (row : RemoteRow) (name : Text) :
    OperandReads row (pg.quoteIdentifier name) (row.value (pg.identToken name)) := by
  refine ⟨pg.identToken name, pg.lexes_quoteIdentifier name, ?_⟩
  rw [Postgres.identToken]
  by_cases hsafe : pg.identIsSafe name = true
  · have hne : name ≠ "NULL".toList := by
      rintro rfl
      simp [Postgres.identIsSafe, isIdentStart] at hsafe
    rw [if_pos hsafe, remoteOperand, if_neg hne]
    simp
  · rw [if_neg hsafe]
    exact ⟨by simp, by simp, rfl⟩

theorem null_read (row : RemoteRow) : OperandReads row "NULL".toList none :=
  ⟨.word "NULL".toList, Lexes.word (by decide) (by decide), by decide, by decide, rfl⟩

/-- A string literal is read as the string, and the empty string as NULL. -/
theorem stringLiteral_read (row : RemoteRow) (str : Text) :
    OperandReads row (stringLiteral str) (if str = [] then none else some str) := by
  cases str with
  | nil => exact null_read row
  | cons c rest =>
    refine ⟨.str (c :: rest), ?_, by simp, by simp, rfl⟩
    rw [stringLiteral, quoteLoop_eq]
    exact Lexes.str (c :: rest)

section

variable {context : DeparseContext} {baserel : RelOptInfo}

/-- A text column is written as its name. -/
theorem textColumn_read (h : context.OnBaseRel baserel) (hrelids : baserel.relids = [baserel.relid])
    (row : RemoteRow) {v : Var}
    (hv : IsTextColumn baserel (context.root.rtFetch baserel.relid) v) :
    ∃ text, exprText context (.var v) = some text ∧ OperandReads row text
      (fetchedValue context.pg (context.root.rtFetch baserel.relid) row v.varattno) := by
  obtain ⟨hno, hlevel, hpos, attr, hattr, -⟩ := hv
  have hown : v.varno ∈ context.scanrel.relids ∧ v.varlevelsup = 0 := by
    rw [h.scanrel, hrelids, hno]
    exact ⟨List.mem_singleton.mpr rfl, hlevel⟩
  have hqual : decide (1 < context.scanrel.relids.length) = false := by
    rw [h.scanrel, hrelids]
    rfl
  have hcol := columnText_of_attr context.pg v.varno false (i := v.varattno.toNat) (by omega) hattr
  rw [Int.toNat_of_nonneg (Int.le_of_lt hpos)] at hcol
  refine ⟨context.pg.quoteIdentifier (remoteColumnName attr), ?_, ?_⟩
  · rw [exprText, if_pos hown, hqual]
    simpa [hno] using hcol
  · rw [fetchedValue, tupleDescAttr, hattr, Option.bind_some]
    exact identifier_read ..

/-- A text constant is written as a literal, and the empty string as NULL. -/
theorem textConstant_read (row : RemoteRow) {c : Const} (hc : c.consttype = TEXTOID) :
    ∃ text, exprText context (.const c) = some text ∧ OperandReads row text
      (if isEmptyConstant context.pg (.const c) then none else constString context.pg c) := by
  rw [exprText, constText, isEmptyConstant, constString]
  rcases hnull : c.constisnull with _ | _
  · have hdatum : datumText context.pg c.constvalue c.consttype = some (stringLiteral
        (context.pg.outputFunctionCall
          (context.pg.pgType c.consttype).typoutput c.constvalue)) := by
      rw [hc]
      rfl
    refine ⟨_, hdatum, ?_⟩
    have hread := stringLiteral_read row
      (context.pg.outputFunctionCall (context.pg.pgType c.consttype).typoutput c.constvalue)
    simpa using hread
  · exact ⟨"NULL".toList, rfl, by simpa using null_read row⟩

/-- **One operand**: it is written as a token with the operand's value, except
that an empty string is written as NULL. -/
theorem operand_read (h : context.OnBaseRel baserel) (hrelids : baserel.relids = [baserel.relid])
    (row : RemoteRow) {e : Node}
    (he : IsTextOperand baserel (context.root.rtFetch baserel.relid) e) :
    ∃ text, exprText context e = some text ∧ OperandReads row text
      (if isEmptyConstant context.pg e then none
        else localOperand context.pg (context.root.rtFetch baserel.relid) row e) := by
  cases e with
  | var v => simpa [isEmptyConstant, localOperand] using textColumn_read h hrelids row he
  | const c => simpa [localOperand] using textConstant_read row he
  | _ => exact absurd he (by simp [IsTextOperand])

/-! ## One condition -/

/-- The text is read as one condition of that value. -/
def ConditionReads (compare : StringComparison) (row : RemoteRow) (text : Text) (truth : Truth) :
    Prop :=
  ∃ toks tree, Lexes text toks ∧ Reads toks [tree] ∧ remoteTruth compare row tree = some truth

/-- A comparison in its parentheses. -/
def comparisonText (lhs name rhs : Text) : Text :=
  '(' :: (lhs ++ ([' '] ++ (name ++ ([' '] ++ (rhs ++ [')'])))))

theorem comparison_read (compare : StringComparison) {row : RemoteRow} {lhs rhs name : Text}
    {a b : Option Text} (hl : OperandReads row lhs a) (hr : OperandReads row rhs b)
    (hname : name ∈ comparisonNames) :
    ConditionReads compare row (parenthesised (comparisonText lhs name rhs))
      (Truth.lift (compare name) a b) := by
  obtain ⟨ltok, hllex, hlo, hlc, hlval⟩ := hl
  obtain ⟨rtok, hrlex, hro, hrc, hrval⟩ := hr
  have hop : Lexes name [.op name] := by
    have hall : (comparisonNames.all fun n => !n.isEmpty && n.all SqlText.isOpChar) = true := by
      decide
    obtain ⟨hne, hop⟩ := Bool.and_eq_true_iff.mp (List.all_eq_true.mp hall name hname)
    exact Lexes.op (by simpa using hne) hop
  have hinner := Lexes.sym_cons (c := '(') (by decide)
    (Lexes.sym_concat (c := ')') (by decide) (hllex.space (hop.space hrlex)))
  have hlex := Lexes.sym_cons (c := '(') (by decide)
    (Lexes.sym_concat (c := ')') (by decide) hinner)
  have hreads := ((((Reads.leaf hlo hlc).append ((Reads.leaf (t := .op name) (by simp)
    (by simp)).append (Reads.leaf hro hrc))).group).group)
  refine ⟨_, _, ?_, hreads, ?_⟩
  · simpa [parenthesised, comparisonText] using hlex
  · simp only [List.cons_append, List.nil_append, remoteTruth, hlval, hrval, Option.bind_some,
      Option.map_some]

/-- **One condition**: read back, a comparison has the value PostgreSQL gives it,
except that a comparison with the empty string is unknown. -/
theorem qual_read (h : context.OnBaseRel baserel) (hrelids : baserel.relids = [baserel.relid])
    (compare : StringComparison) (row : RemoteRow) {q : Node}
    (hq : IsStringQual context.pg baserel (context.root.rtFetch baserel.relid) q) :
    ∃ text, exprText context q = some text ∧ ConditionReads compare row (parenthesised text)
      (if comparesWithEmpty context.pg q then none
        else localTruth context.pg compare (context.root.rtFetch baserel.relid) row q) := by
  unfold IsStringQual at hq
  split at hq
  case h_1 opno inputcollid opcollid lhs rhs =>
    obtain ⟨hkind, hname, hlhs, hrhs⟩ := hq
    obtain ⟨ltext, hltext, hlread⟩ := operand_read h hrelids row hlhs
    obtain ⟨rtext, hrtext, hrread⟩ := operand_read h hrelids row hrhs
    -- the three operators with a name of their own are no comparisons
    have hopname : operatorName (context.pg.pgOperator opno) =
        (context.pg.pgOperator opno).oprname := by
      rw [operatorName] at hname ⊢
      split_ifs at hname ⊢ with hlike
      · exact absurd hname (by decide)
      · rfl
    have hread := comparison_read compare hlread hrread hname
    refine ⟨comparisonText ltext (operatorName (context.pg.pgOperator opno)) rtext, ?_, ?_⟩
    · rw [exprText, exprTexts, exprTexts, exprTexts, hltext, hrtext]
      simp [operatorText, hkind, comparisonText]
    · have htruth : (if comparesWithEmpty context.pg (.opExpr opno inputcollid opcollid [lhs, rhs])
          then none
          else localTruth context.pg compare (context.root.rtFetch baserel.relid) row
            (.opExpr opno inputcollid opcollid [lhs, rhs])) =
          Truth.lift (compare (operatorName (context.pg.pgOperator opno)))
            (if isEmptyConstant context.pg lhs then none
              else localOperand context.pg (context.root.rtFetch baserel.relid) row lhs)
            (if isEmptyConstant context.pg rhs then none
              else localOperand context.pg (context.root.rtFetch baserel.relid) row rhs) := by
        rw [hopname, comparesWithEmpty, localTruth]
        cases hl : isEmptyConstant context.pg lhs <;> cases hr : isEmptyConstant context.pg rhs <;>
          simp [hl, hr, Truth.lift]
      rw [htruth]
      exact comparison_read compare hlread hrread hname
  case h_2 => exact hq.elim

/-! ## The list -/

/-- Conditions joined by `AND` are read one by one. -/
theorem conditions_read {compare : StringComparison} {row : RemoteRow} {texts : List Text}
    {truths : List Truth} (h : List.Forall₂ (ConditionReads compare row) texts truths) :
    ∃ toks ts, Lexes (List.intercalate " AND ".toList texts) toks ∧ Reads toks ts ∧
      remoteTruths compare row ts = some truths := by
  induction h with
  | nil => exact ⟨[], [], Lexes.nil, Reads.nil, rfl⟩
  | @cons text truth texts truths hcond hrest ih =>
    obtain ⟨toks, tree, hlex, hreads, htruth⟩ := hcond
    cases hrest with
    | nil =>
      refine ⟨toks, [tree], ?_, hreads, ?_⟩
      · rw [List.intercalate_singleton]
        exact hlex
      · rw [remoteTruths, htruth]
        rfl
    | @cons next nextTruth texts truths hnext hrest =>
      obtain ⟨toks', ts, hlex', hreads', htruths⟩ := ih
      -- `AND` is a word of its own between two conditions
      have hand : Lexes "AND".toList [.word "AND".toList] := Lexes.word (by decide) (by decide)
      have hleaf := Reads.leaf (t := .word "AND".toList) (by simp) (by simp)
      refine ⟨_, _, ?_, hreads.append (hleaf.append hreads'), ?_⟩
      · rw [List.intercalate_cons_cons]
        simpa using hlex.space (hand.space hlex')
      · have hstep : remoteTruths compare row ([tree] ++ ([.leaf (.word "AND".toList)] ++ ts)) =
            (remoteTruth compare row tree).bind fun t =>
              (remoteTruths compare row ts).map fun ts => t :: ts := rfl
        rw [hstep, htruth, htruths]
        rfl

/-- **Tibero's verdict**: it is PostgreSQL's, unless a qualifier compares with
the empty string; then the row is rejected. -/
theorem remoteKeeps_eq (h : context.OnBaseRel baserel) (hrelids : baserel.relids = [baserel.relid])
    (compare : StringComparison) (row : RemoteRow) (quals : List Node)
    (hship : ∀ q ∈ quals, exprInspectShippability context.pg baserel q = true)
    (hquals : ∀ q ∈ quals,
      IsStringQual context.pg baserel (context.root.rtFetch baserel.relid) q) :
    remoteKeeps context compare row quals =
      some (!quals.any (comparesWithEmpty context.pg) &&
        localKeeps context.pg compare (context.root.rtFetch baserel.relid) row quals) := by
  -- the texts and the truth values of the conditions, one by one
  have hsplit : ∀ l : List Node, (∀ q ∈ l, q ∈ quals) → ∃ texts,
      List.Forall₂ (fun e t => Renders (deparseExpr context e) (some t)) l texts ∧
      List.Forall₂ (ConditionReads compare row) (texts.map parenthesised)
        (l.map fun q => if comparesWithEmpty context.pg q then none
          else localTruth context.pg compare (context.root.rtFetch baserel.relid) row q) := by
    intro l
    induction l with
    | nil => exact fun _ => ⟨[], .nil, .nil⟩
    | cons q rest ih =>
      intro hmem
      obtain ⟨texts, hrenders, hreads⟩ := ih fun r hr => hmem r (List.mem_cons_of_mem _ hr)
      have hq := hmem q (List.mem_cons_self ..)
      obtain ⟨text, htext, hread⟩ := qual_read h hrelids compare row (hquals q hq)
      have hlist : q.isList = false := by
        have hsq := hquals q hq
        cases q <;> first | rfl | exact hsq.elim
      have hrender := renders_expr h q (exprInspectShippability_eq_true_iff.mp (hship q hq)) hlist
      rw [htext] at hrender
      exact ⟨text :: texts, .cons hrender hrenders, .cons hread hreads⟩
  obtain ⟨texts, hrenders, hreads⟩ := hsplit quals fun _ hq => hq
  have hrun := renders_conditions hrenders RemoteSqlInfo.start (Int.le_refl 0)
  obtain ⟨toks, ts, hlex, htrees, htruths⟩ := conditions_read hreads
  rw [remoteKeeps, hrun]
  change textKeeps compare row (List.intercalate " AND ".toList (texts.map parenthesised)) = _
  rw [textKeeps, hlex.tokens, Option.bind_some, htrees.trees, Option.bind_some, htruths,
    Option.map_some, Truth.keeps_all_unless, localKeeps]

end

/-- **When pushing string comparisons down keeps the result**: exactly when no
qualifier compares with the empty string, or PostgreSQL rejects the row. The empty string is
NULL for the remote side, which makes such a comparison unknown and drops the row. -/
theorem remoteKeeps_iff {context : DeparseContext} {baserel : RelOptInfo}
    (h : context.OnBaseRel baserel) (hrelids : baserel.relids = [baserel.relid])
    (compare : StringComparison) (row : RemoteRow) (quals : List Node)
    (hship : ∀ q ∈ quals, exprInspectShippability context.pg baserel q = true)
    (hquals : ∀ q ∈ quals,
      IsStringQual context.pg baserel (context.root.rtFetch baserel.relid) q) :
    remoteKeeps context compare row quals =
        some (localKeeps context.pg compare (context.root.rtFetch baserel.relid) row quals) ↔
      (∀ q ∈ quals, comparesWithEmpty context.pg q = false) ∨
        localKeeps context.pg compare (context.root.rtFetch baserel.relid) row quals = false := by
  rw [remoteKeeps_eq h hrelids compare row quals hship hquals]
  have hany : quals.any (comparesWithEmpty context.pg) = false ↔
      ∀ q ∈ quals, comparesWithEmpty context.pg q = false := by
    simp
  rw [← hany]
  cases quals.any (comparesWithEmpty context.pg) <;>
    cases localKeeps context.pg compare (context.root.rtFetch baserel.relid) row quals <;> simp

/-- The scan of a table with one text column. -/
def textScan : DeparseContext :=
  selectContext Postgres.small ⟨fun _ => textTable⟩ RelOptInfo.scanOfTable false false

theorem textScan_onBaseRel : textScan.OnBaseRel RelOptInfo.scanOfTable :=
  selectContext_onBaseRel _ _ rfl _ _

/-- The lexicographic order of code points. -/
def precedes (a b : Text) : Bool := List.lex a b fun c d => Nat.blt c.toNat d.toNat

/-- Comparison in the order of code points. -/
def byCodePoint : StringComparison := fun name a b =>
  if name = "=".toList then a == b
  else if name = "<>".toList then a != b
  else if name = "<".toList then precedes a b
  else if name = "<=".toList then !precedes b a
  else if name = ">".toList then precedes b a
  else !precedes a b

/-- The row with the value `x` in every column. -/
def rowOfX : RemoteRow := ⟨fun _ => some ['x'], fun _ => by simp⟩

theorem textCondition_isStringQual {opno : Oid} {str : String}
    (hname : operatorName (Postgres.small.pgOperator opno) ∈ comparisonNames) :
    IsStringQual textScan.pg RelOptInfo.scanOfTable
      (textScan.root.rtFetch RelOptInfo.scanOfTable.relid) (textCondition opno str) :=
  ⟨rfl, hname, ⟨rfl, rfl, by decide, _, rfl, rfl⟩, rfl⟩

/-- `c <> ''` keeps the row in PostgreSQL and rejects it in Tibero. -/
theorem notEmpty_pushed_down_rejects :
    (∀ q ∈ [textCondition 531 ""],
        exprInspectShippability textScan.pg RelOptInfo.scanOfTable q = true) ∧
      (∀ q ∈ [textCondition 531 ""], IsStringQual textScan.pg RelOptInfo.scanOfTable
        (textScan.root.rtFetch RelOptInfo.scanOfTable.relid) q) ∧
      ¬ remoteKeeps textScan byCodePoint rowOfX [textCondition 531 ""] =
        some (localKeeps textScan.pg byCodePoint
          (textScan.root.rtFetch RelOptInfo.scanOfTable.relid) rowOfX [textCondition 531 ""]) := by
  refine ⟨by decide, ?_, by decide⟩
  intro q hq
  obtain rfl := List.mem_singleton.mp hq
  exact textCondition_isStringQual (by decide)

/-- `c = 'x'` keeps the row on both sides. -/
theorem equalsX_pushed_down_keeps :
    remoteKeeps textScan byCodePoint rowOfX [textCondition 98 "x"] =
      some (localKeeps textScan.pg byCodePoint
        (textScan.root.rtFetch RelOptInfo.scanOfTable.relid) rowOfX [textCondition 98 "x"]) := by
  refine (remoteKeeps_iff textScan_onBaseRel rfl byCodePoint rowOfX _ (by decide) ?_).mpr
    (.inl (by decide))
  intro q hq
  obtain rfl := List.mem_singleton.mp hq
  exact textCondition_isStringQual (by decide)

end TiberoFdw
