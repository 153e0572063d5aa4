import TiberoFdw.Render

/-!
# String literals

`deparse_string_literal` doubles the quotes of a string, and writes `NULL` for the empty
one. Nothing in a string ends its literal early: whoever reads the text gets the string
back and stops where the literal ends.
-/

namespace TiberoFdw

/-- What is said of a string and of a text that follows its literal. -/
def LiteralContained (str rest : Text) : Prop :=
  ∀ s : RemoteSqlInfo, ∃ text,
    deparseStringLiteral str s = .ok () { s with buf := s.buf ++ text } ∧
      SqlText.readLiteral (text ++ rest) = some (str, rest)

/-- The text of a literal is read back as the string. -/
theorem readLiteral_stringLiteral (str : Text) {rest : Text} (hrest : rest.head? ≠ some '\'') :
    SqlText.readLiteral (stringLiteral str ++ rest) = some (str, rest) := by
  cases str with
  | nil => rfl
  | cons c str =>
    have hread := SqlText.readQuoted_escape (c :: str) hrest
    rw [stringLiteral, quoteLoop_eq, List.cons_append, List.append_assoc]
    exact hread

/-- **A string literal cannot be escaped from.** It is read as one token with the string as its
value, and the rest of the text begins where the literal ends; so a constant of a query can
never add SQL to what is sent. -/
theorem stringLiteral_contained (str rest : Text) (hrest : rest.head? ≠ some '\'') :
    LiteralContained str rest := by
  intro s
  refine ⟨stringLiteral str, ?_, readLiteral_stringLiteral str hrest⟩
  cases str with
  | nil => rfl
  | cons c str => rfl

/-- Quotes at both ends and in the middle, before a closing parenthesis. -/
theorem quotes_contained : LiteralContained "''it''s'".toList ") OR (1 = 1".toList :=
  stringLiteral_contained _ _ (by decide)

end TiberoFdw
