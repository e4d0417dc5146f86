/-!
Charsets of one byte a character.

A code page lists the characters of the bytes in order and as far as it has any. A byte without one
is read as the replacement character, which also stands in the lists for it.
-/

namespace ImageRelease.Text

structure CodePage where
  name : String
  others : List String := []
  chars : List Char

def replacement : Char := Char.ofNat 0xFFFD

namespace CodePage

def charOf (p : CodePage) (b : UInt8) : Char :=
  p.chars[b.toNat]?.getD replacement

/-- The first 128 characters of most pages. -/
def ascii : List Char := (List.range 0x80).map Char.ofNat

/-- The control characters that follow in some pages. -/
def controls : List Char := (List.range 0x20).map fun n => Char.ofNat (0x80 + n)

/-- The characters of the rows of a table. -/
def ofRows (rows : List String) : List Char := rows.flatMap String.toList

end CodePage

end ImageRelease.Text
