import ImageRelease.Text.Hex
import ImageRelease.Text.Printable
import ImageRelease.Text.Surrogate
/-!
A text in quotes, on one line and in printable characters, as messages show it.

The quotes are single ones, or double ones around a text that has single quotes and no double one.
Inside, the quote in use and the backslash have a backslash in front; what is not printable stands
as an escape of two, four or eight digits, the shortest that holds it. So does a surrogate.
-/

namespace ImageRelease.Text

/-- The quote that a text is put in. -/
def quoteFor (l : List Char) : Char :=
  if l.contains '\'' && !l.contains '"' then '"' else '\''

def quotedChar (quote c : Char) : List Char :=
  if c = quote ∨ c = '\\' then ['\\', c]
  else if c = '\t' then ['\\', 't']
  else if c = '\n' then ['\\', 'n']
  else if c = '\r' then ['\\', 'r']
  else if isPrintable c then [c]
  else escaped (Surrogate.code c)

def quoted (s : String) : String :=
  let q := quoteFor s.toList
  .ofList (q :: s.toList.flatMap (quotedChar q) ++ [q])

end ImageRelease.Text
