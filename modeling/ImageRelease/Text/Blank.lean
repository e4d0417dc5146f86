/-!
Blank characters, and a text without the blanks at its two ends.

Blank are the space separators of Unicode, the controls that end a line, a page or a record, and
the no-break spaces; a zero-width space is not blank.
-/

namespace ImageRelease.Text

def isBlank (c : Char) : Bool :=
  let n := c.toNat
  (0x09 ≤ n && n ≤ 0x0D) || (0x1C ≤ n && n ≤ 0x20) || n == 0x85 || n == 0xA0 || n == 0x1680 ||
    (0x2000 ≤ n && n ≤ 0x200A) || n == 0x2028 || n == 0x2029 || n == 0x202F || n == 0x205F ||
    n == 0x3000

/-- The text without the characters of a class at its two ends. -/
def trimBy (p : Char → Bool) (l : List Char) : List Char :=
  ((l.dropWhile p).reverse.dropWhile p).reverse

def trim (l : List Char) : List Char :=
  trimBy isBlank l

/-- The text without the blanks at its two ends. -/
def strip (s : String) : String :=
  .ofList (trim s.toList)

theorem isBlank_of_isWhitespace {c : Char} (h : c.isWhitespace) : isBlank c := by
  simp only [Char.isWhitespace, Bool.or_eq_true, decide_eq_true_eq] at h
  rcases h with ((rfl | rfl) | rfl) | rfl <;> rfl

@[simp] theorem trim_nil : trim [] = [] := rfl

end ImageRelease.Text
