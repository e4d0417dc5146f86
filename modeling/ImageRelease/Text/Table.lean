import ImageRelease.Text.CodePage
/-!
Tables of characters in rows. The replacement character stands for none.
-/

namespace ImageRelease.Text

structure Table where
  rows : Array String

/-- The character in a row and a column, both counted from zero, if there is one. -/
def Table.char? (t : Table) (row column : Nat) : Option Char := do
  let c ← (← t.rows[row]?).toList[column]?
  if c = replacement then none else some c

end ImageRelease.Text
