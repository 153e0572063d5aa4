import TiberoFdw.Lib.Like
import TiberoFdw.StringLiterals
import TiberoFdw.StringQuals

/-!
# LIKE conditions

The operator `~~` is written as `LIKE`, and the pattern as a string literal without an
`ESCAPE` clause. PostgreSQL takes the backslash for the escape character, and the remote
database has none, so the condition keeps its meaning **only without backslashes in the
pattern**.
-/

namespace TiberoFdw

/-- The operators that are written as `LIKE`. -/
def likeOperators : List Oid := [OID_NAME_LIKE_OP, OID_TEXT_LIKE_OP, OID_BPCHAR_LIKE_OP]

/-- The escape character of PostgreSQL. -/
def escapeCharacter : Char := '\\'

/-- The pattern of a condition that is `LIKE` with a literal and nothing else. -/
def readLike (lhs text : Text) : Option Text :=
  let before := '(' :: (lhs ++ " LIKE ".toList)
  if before <+: text then
    match SqlText.readLiteral (text.drop before.length) with
    | some (pattern, [')']) => some pattern
    | _ => none
  else none

/-- What is said of a condition with that pattern: it is written with a pattern that means the
same in the remote database. -/
def KeepsLike (context : DeparseContext) (qual : Node) (lhs pattern : Text) : Prop :=
  ∃ text written, Renders (deparseExpr context qual) (some text) ∧
    readLike lhs text = some written ∧
    ∀ s, Like.like none written s = Like.like (some escapeCharacter) pattern s

theorem readLike_text (lhs pattern : Text) :
    readLike lhs
        ('(' :: (lhs ++ ' ' :: ("LIKE".toList ++ ' ' :: (stringLiteral pattern ++ [')'])))) =
      some pattern := by
  have hsplit : '(' :: (lhs ++ ' ' :: ("LIKE".toList ++ ' ' :: (stringLiteral pattern ++ [')']))) =
      '(' :: (lhs ++ " LIKE ".toList) ++ (stringLiteral pattern ++ [')']) := by
    simp
  rw [hsplit, readLike, if_pos (List.prefix_append _ _), List.drop_left,
    readLiteral_stringLiteral pattern (by decide)]
  rfl

/-- The text of a `LIKE` condition. -/
theorem exprText_like {context : DeparseContext} {opno inputcollid opcollid : Oid} {lhs : Node}
    {c : Const} (hop : opno ∈ likeOperators) (hkind : (context.pg.pgOperator opno).oprkind = .both)
    (hnull : c.constisnull = false) (htype : c.consttype ∈ stringTypes) {lhsText : Text}
    (hlhs : exprText context lhs = some lhsText) :
    exprText context (.opExpr opno inputcollid opcollid [lhs, .const c]) =
      some ('(' :: (lhsText ++ ' ' :: ("LIKE".toList ++ ' ' :: (stringLiteral
        (context.pg.outputFunctionCall (context.pg.pgType c.consttype).typoutput c.constvalue) ++
          [')'])))) := by
  have hname : operatorName (context.pg.pgOperator opno) = "LIKE".toList := by
    rw [operatorName, context.pg.pgOperator_oid]
    exact if_pos hop
  have hconst : exprText context (.const c) = some (stringLiteral
      (context.pg.outputFunctionCall (context.pg.pgType c.consttype).typoutput c.constvalue)) := by
    rw [exprText, constText, hnull, if_neg Bool.false_ne_true, datumText_string _ _ htype]
  rw [exprText, exprTexts, exprTexts, exprTexts, hlhs, hconst, operatorText.eq_def, hkind]
  dsimp only
  rw [hname]
  rfl

/-- **A `LIKE` condition keeps its meaning exactly when its pattern has no backslash.** PostgreSQL
takes the backslash for its escape character, and the remote side has none unless the condition
names one. -/
theorem keepsLike_iff {context : DeparseContext} {baserel : RelOptInfo}
    (hbase : context.OnBaseRel baserel) {opno inputcollid opcollid : Oid} {lhs : Node} {c : Const}
    (hop : opno ∈ likeOperators) (hkind : (context.pg.pgOperator opno).oprkind = .both)
    (hnull : c.constisnull = false) (htype : c.consttype ∈ stringTypes)
    (haccepted : exprInspectShippability context.pg baserel
      (.opExpr opno inputcollid opcollid [lhs, .const c]) = true)
    {lhsText pattern : Text} (hlhs : exprText context lhs = some lhsText)
    (hpattern : context.pg.outputFunctionCall (context.pg.pgType c.consttype).typoutput
      c.constvalue = pattern)
    (hmeaning : (Like.elements (some escapeCharacter) pattern).isSome = true) :
    KeepsLike context (.opExpr opno inputcollid opcollid [lhs, .const c]) lhsText pattern ↔
      escapeCharacter ∉ pattern := by
  have hrenders := renders_accepted hbase (exprInspectShippability_eq_true_iff.mp haccepted)
  rw [exprText_like hop hkind hnull htype hlhs, hpattern] at hrenders
  rw [← Like.like_eq_iff (by decide) (by decide) hmeaning]
  constructor
  · rintro ⟨text, written, htext, hread, hsame⟩
    rw [hrenders.some_iff, Option.some.injEq] at htext
    rw [← htext, readLike_text, Option.some.injEq] at hread
    exact hread ▸ hsame
  · exact fun hsame => ⟨_, pattern, hrenders, readLike_text lhsText pattern, hsame⟩

/-- The condition `c LIKE 'O''Re%'`. -/
theorem quotedPattern_keepsLike :
    KeepsLike textScan (textCondition 1209 "O'Re%") "c".toList "O'Re%".toList :=
  (keepsLike_iff textScan_onBaseRel (by decide) rfl rfl (by decide) (by decide) (by decide) rfl
    (by decide)).mpr (by decide)

/-- The condition `c LIKE '50\%'`, which is true of `50%`. -/
theorem escapedPercent_lost :
    exprInspectShippability textScan.pg .scanOfTable (textCondition 1209 "50\\%") = true ∧
    (Like.elements (some escapeCharacter) "50\\%".toList).isSome = true ∧
    Like.like (some escapeCharacter) "50\\%".toList "50%".toList = some true ∧
    ¬ KeepsLike textScan (textCondition 1209 "50\\%") "c".toList "50\\%".toList := by
  have haccepted : exprInspectShippability textScan.pg .scanOfTable (textCondition 1209 "50\\%") =
    true := by decide
  have hrenders := renders_accepted textScan_onBaseRel
    (exprInspectShippability_eq_true_iff.mp haccepted)
  refine ⟨haccepted, by decide, by decide, ?_⟩
  rintro ⟨text, written, htext, hread, hsame⟩
  have hexpr : exprText textScan (textCondition 1209 "50\\%") =
    some "(c LIKE '50\\%')".toList := by decide
  have hwritten : readLike "c".toList "(c LIKE '50\\%')".toList = some "50\\%".toList := by decide
  rw [hexpr] at hrenders
  rw [hrenders.some_iff, Option.some.injEq] at htext
  rw [← htext, hwritten, Option.some.injEq] at hread
  have h := hsame "50%".toList
  rw [← hread] at h
  exact absurd h (by decide)

end TiberoFdw
