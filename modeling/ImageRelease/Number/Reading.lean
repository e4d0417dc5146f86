import ImageRelease.Number.Binary64
import ImageRelease.Text.Blank
import ImageRelease.Text.Digit
/-!
Reading numbers from text.

Around the number there may be blanks, its digits may be those of any script, and between two
digits there may be an underscore. A whole number is a sign and digits. A double is a sign, digits
with a point before, among or after them, and a power of ten; or a sign and one of the words for
infinity and for what is no number, in any case.
-/

namespace ImageRelease.Number

open Text

/-- Blanks around a number: of the controls only the tab, the line ends and the page end count. -/
def isMargin (c : Char) : Bool :=
  isBlank c && !(0x1C ≤ c.toNat && c.toNat ≤ 0x1F)

/-- The text with each digit as one of the ten usual ones. -/
def plainDigits (l : List Char) : List Char :=
  l.map fun c => match digitValue? c with
    | some d => Char.ofNat (0x30 + d)
    | none => c

/-- The text without its underscores, each of which must stand between two digits. -/
def dropUnderscores : (before : Char) → List Char → Option (List Char)
  | before, [] => if before = '_' then none else some []
  | before, c :: rest =>
    if c = '_' then if before.isDigit then dropUnderscores c rest else none
    else if before = '_' ∧ !c.isDigit then none
    else (dropUnderscores c rest).map (c :: ·)

def takeSign : List Char → Bool × List Char
  | '-' :: rest => (true, rest)
  | '+' :: rest => (false, rest)
  | l => (false, l)

def digitsValue (l : List Char) : Nat :=
  l.foldl (fun n c => n * 10 + (c.toNat - 0x30)) 0

def digitLimit : Nat := 4300

def readWhole? (l : List Char) : Option Int :=
  (dropUnderscores ' ' (plainDigits (trimBy isMargin l))).bind fun l =>
    let (negative, digits) := takeSign l
    if digits = [] ∨ !digits.all Char.isDigit ∨ digitLimit < digits.length then none
    else some (if negative then -(digitsValue digits : Nat) else (digitsValue digits : Nat))

/-- A power of ten after a number; nothing else may follow. -/
def readPower : List Char → Option Int
  | [] => some 0
  | c :: rest =>
    if c = 'e' ∨ c = 'E' then
      let (negative, digits) := takeSign rest
      if digits = [] ∨ !digits.all Char.isDigit then none
      else some (if negative then -(digitsValue digits : Nat) else (digitsValue digits : Nat))
    else none

/-- The double nearest to `mantissa * 10 ^ power`, where powers far beyond all doubles are not
computed. -/
def ofDecimal (negative : Bool) (mantissa : Nat) (power : Int) : Float :=
  let size := (Nat.toDigits 10 mantissa).length + power
  if mantissa = 0 ∨ size < -400 then nearest negative 0 1
  else if 400 < size then infinity negative
  else if 0 ≤ power then nearest negative (mantissa * tenTo power.toNat) 1
  else nearest negative mantissa (tenTo (-power).toNat)

/-- A number without sign, blanks and underscores. -/
def readUnsigned (negative : Bool) (l : List Char) : Option Float :=
  let word := l.map Char.toLower
  if word = "inf".toList ∨ word = "infinity".toList then some (infinity negative)
  else if word = "nan".toList then some notANumber
  else
    let whole := l.takeWhile Char.isDigit
    let rest := l.dropWhile Char.isDigit
    let (part, rest) := match rest with
      | '.' :: r => (r.takeWhile Char.isDigit, r.dropWhile Char.isDigit)
      | r => ([], r)
    if whole = [] ∧ part = [] then none
    else (readPower rest).map fun power =>
      ofDecimal negative (digitsValue (whole ++ part)) (power - part.length)

def read? (s : String) : Option Float :=
  (dropUnderscores ' ' (plainDigits (trimBy isMargin s.toList))).bind fun l =>
    let (negative, l) := takeSign l
    readUnsigned negative l

end ImageRelease.Number
