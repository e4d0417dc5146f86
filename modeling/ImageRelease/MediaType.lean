import ImageRelease.Text.Blank
import ImageRelease.Text.Charset
import ImageRelease.Text.Hex
import ImageRelease.Text.Lower
import ImageRelease.Text.Split
/-!
The charset that the type of a content names.

A type has parameters after semicolons, each a name and a value with an equals sign between them.
A semicolon within quotes parts nothing. The first parameter of the name counts. If there is none,
the value may stand in pieces whose names end in an asterisk and, perhaps, a number. A further
asterisk says that a piece is escaped; then a charset, a language and the value have apostrophes
between them. Pieces with a number and pieces without one cannot be put in order.
-/

namespace ImageRelease.MediaType

open Text

/-- The parts between semicolons that are not within quotes; a quote after a backslash is none.
`part` is what has been read of a part, last character first. -/
def partsFrom (part : List Char) (isQuoted : Bool) : List Char → List (List Char)
  | [] => [part.reverse]
  | c :: rest =>
    if c = ';' ∧ !isQuoted then part.reverse :: partsFrom [] false rest
    else
      let isQuote := c == '"' && part.head? != some '\\'
      partsFrom (c :: part) (isQuoted != isQuote) rest

/-- The name of a parameter and its value. A name that has a value is in small letters. -/
def parameter (part : List Char) : List Char × List Char :=
  match cutFirst '=' part with
  | some (name, value) => (lower (trim name), trim value)
  | none => (trim part, [])

/-- A value without the quotes or angles around it. -/
def unquoted (l : List Char) : List Char :=
  if 1 < l.length ∧ l.head? = some '"' ∧ l.getLast? = some '"' then
    replaceAll ['\\', '"'] ['"'] (replaceAll ['\\', '\\'] ['\\'] (l.drop 1).dropLast)
  else if 1 < l.length ∧ l.head? = some '<' ∧ l.getLast? = some '>' then (l.drop 1).dropLast
  else l

/-! ### Values in pieces -/

/-- A piece of a value. -/
structure ValuePiece where
  name : List Char
  number : Option Nat
  isEscaped : Bool
  text : List Char

/-- A piece, if the name is that of one. -/
def piece? (name value : List Char) : Option ValuePiece := do
  let (first, rest) ← cutFirst '*' name
  let number := rest.takeWhile Char.isDigit
  let isWhole := rest = number ∨ number ≠ [] ∧ rest = number ++ ['*']
  if isWhole ∧ first ≠ [] ∧ first.all (fun c => c.isAlphanum || c == '_') then
    some {
      name := first
      number := if number = [] then none
        else some (number.foldl (fun n c => 10 * n + (c.toNat - '0'.toNat)) 0)
      isEscaped := name.getLast? == some '*'
      text := unquoted value }
  else none

/-- A text with a character for each percent sign and two digits. -/
def unescaped : List Char → List Char
  | '%' :: a :: b :: rest =>
    match hexValue? a, hexValue? b with
    | some x, some y => Char.ofNat (16 * x + y) :: unescaped rest
    | _, _ => '%' :: unescaped (a :: b :: rest)
  | c :: rest => c :: unescaped rest
  | [] => []

/-- The pieces of each name, by first mention. -/
def groups (l : List ValuePiece) : List (List ValuePiece) :=
  (l.map (·.name)).eraseDups.map fun n => l.filter (·.name = n)

/-- The first of the pieces that cannot be put in order with the ones before. -/
def misplaced? : List ValuePiece → Option ValuePiece
  | [] => none
  | first :: rest => rest.find? (·.number.isSome != first.number.isSome)

/-- Whether one piece may stand before another: by number, then text, then escape. -/
def isInOrder (a b : ValuePiece) : Bool :=
  let codes (p : ValuePiece) := p.text.map (·.toNat)
  if a.number ≠ b.number then decide (a.number.getD 0 < b.number.getD 0)
  else if a.text ≠ b.text then decide (codes a < codes b)
  else !a.isEscaped || b.isEscaped

def valueOf (l : List ValuePiece) : List Char :=
  let l := l.mergeSort isInOrder
  let text := l.flatMap fun p => if p.isEscaped then unescaped p.text else p.text
  if l.any (·.isEscaped) then
    match cutFirst '\'' text with
    | some (_, rest) => ((cutFirst '\'' rest).map (·.2)).getD text
    | none => text
  else text

/-! ### The charset -/

/-- The value of a parameter whose name is in small letters. -/
def value? (name : List Char) (type : String) : Except ValuePiece (Option (List Char)) :=
  match (partsFrom [] false type.toList).map parameter with
  | [] => .ok none
  | first :: rest =>
    let pieces := groups (rest.filterMap fun (n, v) => piece? n v)
    let plain := first :: rest.filter fun (n, v) => (piece? n v).isNone
    match pieces.findSome? misplaced?, plain.find? (lower ·.1 = name) with
    | some p, _ => .error p
    | none, some (_, value) => .ok (some (unquoted value))
    | none, none =>
      .ok ((pieces.find? fun l => l.any (lower ·.name = name)).map valueOf)

/-- The charset that a type names, if it names one that is known. -/
def charset? (type : String) : Except Charset.Fault (Option Charset) :=
  match value? "charset".toList type with
  | .error p => .error (.unordered p.number.isSome)
  | .ok none => .ok none
  | .ok (some name) =>
    .ok (if name.all (·.toNat < 0x80) then Charset.ofName? name else none)

end ImageRelease.MediaType
