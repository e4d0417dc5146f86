import ImageRelease.Json.Reader
import ImageRelease.Text.Units
import ImageRelease.Text.Utf8
/-!
JSON as it comes in bytes.

A text of JSON begins with ASCII, so the zeros among its first bytes tell how many bytes a unit has
and which of them comes first. In UTF-8 a byte order mark may stand in front.
-/

namespace ImageRelease.Json

open Text

inductive Encoding
  | utf8
  | utf16 (order : Units.Order)
  | utf32 (order : Units.Order)
  deriving DecidableEq, Repr

/-- The encoding that bytes are in. -/
def Encoding.of : List UInt8 → Encoding
  | a :: b :: c :: d :: _ =>
    if a = 0 then (if b = 0 then utf32 .big else utf16 .big)
    else if b = 0 then (if c = 0 ∧ d = 0 then utf32 .little else utf16 .little)
    else utf8
  | [a, b] => if a = 0 then utf16 .big else if b = 0 then utf16 .little else utf8
  | _ => utf8

def withoutMark (l : List Char) : List Char :=
  if l.head? = some (Char.ofNat 0xFEFF) then l.drop 1 else l

def Encoding.decode? (bytes : List UInt8) : Encoding → Option (List Char)
  | utf8 => (Utf8.decode bytes).toOption.map withoutMark
  | utf16 order =>
    let (units, isRest) := Units.twos order bytes
    if isRest then none else some (Units.pairUp units)
  | utf32 order =>
    let (units, isRest) := Units.fours order bytes
    if isRest then none else units.mapM Units.point?

def textOf? (bytes : List UInt8) : Option (List Char) :=
  (Encoding.of bytes).decode? bytes

end ImageRelease.Json
