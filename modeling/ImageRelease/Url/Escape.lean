import ImageRelease.Text.Utf8
/-!
Characters of addresses as the bytes of their UTF-8 form.

Each part of an address has marks that may not stand in it. These, blanks and everything beyond
ASCII are written as a percent sign and two digits for each byte; a percent sign stays, so what is
already written so is not written again.
-/

namespace ImageRelease.Url

open Text

/-- The characters that stay as they are, but for those of `marks`. -/
def stays (marks : List Char) (c : Char) : Bool :=
  0x20 < c.toNat && c.toNat < 0x7F && !marks.contains c

def percent (c : Char) : List Char :=
  (Utf8.encode [c]).flatMap fun b => '%' :: (hex 2 b.toNat).map Char.toUpper

def escape (marks : List Char) (l : List Char) : List Char :=
  l.flatMap fun c => if stays marks c then [c] else percent c

/-- The bytes of a text, a percent sign and two digits being one byte. -/
def bytesOf : List Char → List UInt8
  | '%' :: a :: b :: rest =>
    match hexValue? a, hexValue? b with
    | some x, some y => .ofNat (16 * x + y) :: bytesOf rest
    | _, _ => Utf8.encode ['%'] ++ bytesOf (a :: b :: rest)
  | c :: rest => Utf8.encode [c] ++ bytesOf rest
  | [] => []

def unescape? (l : List Char) : Option (List Char) :=
  (Utf8.decode (bytesOf l)).toOption

def grave : Char := Char.ofNat 0x60

def userMarks : List Char :=
  ['"', '#', '<', '>', '?', grave, '{', '}', '/', ';', '=', '@', '[', '\\', ']', '^', '|']

def hostMarks : List Char := ['#', '<', '>', '?', '/', ':', '@', '[', ']', '^']

def pathMarks : List Char := ['"', '#', '<', '>', '?', grave, '{', '}']

def queryMarks : List Char := ['"', '#', '<', '>']

def fragmentMarks : List Char := ['"', '<', '>', grave]

end ImageRelease.Url
