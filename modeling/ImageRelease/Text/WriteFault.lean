import ImageRelease.Text.Hex
import ImageRelease.Text.Surrogate
/-!
Text that cannot be written, with the place and the cause.

ASCII has the first 128 code points alone, and UTF-8 has all characters but no surrogates.
-/

namespace ImageRelease.Text

/-- Characters that a charset lacks, from one position to another, with the first of them. -/
structure WriteFault where
  charset : String
  cause : String
  code : Nat
  first : Nat
  last : Nat
  deriving DecidableEq, Repr

/-- The first characters of a text that a charset does not have. -/
def writeFault? (charset cause : String) (lacks : Char → Bool) (l : List Char)
    (places : Surrogate.Places := .usual) : Option WriteFault :=
  let first := (l.takeWhile (!lacks ·)).length
  match l.drop first with
  | [] => none
  | c :: rest =>
    some ⟨charset, cause, places.code c, first, first + (rest.takeWhile lacks).length⟩

def asciiFault? (l : List Char) : Option WriteFault :=
  writeFault? "ascii" "ordinal not in range(128)" (0x80 ≤ ·.toNat) l

def utf8Fault? (l : List Char) (places : Surrogate.Places := .usual) : Option WriteFault :=
  writeFault? "utf-8" "surrogates not allowed" places.holds l places

def WriteFault.message (f : WriteFault) : String :=
  let place :=
    if f.first = f.last then
      "character '" ++ .ofList (escaped f.code) ++ "' in position " ++ toString f.first
    else "characters in position " ++ toString f.first ++ "-" ++ toString f.last
  "'" ++ f.charset ++ "' codec can't encode " ++ place ++ ": " ++ f.cause

end ImageRelease.Text
