/-!
Texts as lines.

Many characters end a line, not the line feed alone, and a carriage return with the line feed
after it ends one line, not two. The end of the text ends the last line, so that a line end there
opens no further line.
-/

namespace ImageRelease.Text

def isLineEnd (c : Char) : Bool :=
  let n := c.toNat
  (0x0A ≤ n && n ≤ 0x0D) || (0x1C ≤ n && n ≤ 0x1E) || n == 0x85 || n == 0x2028 || n == 0x2029

/-- Puts a character in front of the first line. -/
def onFirst (c : Char) : List (List Char) → List (List Char)
  | [] => [[c]]
  | l :: ls => (c :: l) :: ls

/-- The lines of a text, without the characters that end them. -/
def lines : List Char → List (List Char)
  | [] => []
  | '\r' :: '\n' :: rest => [] :: lines rest
  | c :: rest => if isLineEnd c then [] :: lines rest else onFirst c (lines rest)

/-- The text with every line end that files use (`\r\n`, `\r`, `\n`) written as a line feed. -/
def plainLineFeeds : List Char → List Char
  | [] => []
  | '\r' :: '\n' :: rest => '\n' :: plainLineFeeds rest
  | c :: rest => (if c = '\r' then '\n' else c) :: plainLineFeeds rest

end ImageRelease.Text
