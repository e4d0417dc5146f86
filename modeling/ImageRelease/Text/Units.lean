import ImageRelease.Text.Surrogate
/-!
Bytes as text in units of two and of four bytes.

Units of two bytes are characters of the first plane or, two and two, the surrogates of one further
on; units of four bytes are code points. Surrogates that stand alone are kept as such. What bytes at
the end make no unit is told with the text.
-/

namespace ImageRelease.Text.Units

inductive Order
  | big
  | little
  deriving DecidableEq, Repr

def two (o : Order) (a b : UInt8) : Nat :=
  match o with
  | .big => a.toNat * 0x100 + b.toNat
  | .little => b.toNat * 0x100 + a.toNat

def four (o : Order) (a b c d : UInt8) : Nat :=
  match o with
  | .big => two o a b * 0x10000 + two o c d
  | .little => two o c d * 0x10000 + two o a b

/-- The units of two bytes, and whether a byte is left over. -/
def twos (o : Order) : List UInt8 → List Nat × Bool
  | [] => ([], false)
  | [_] => ([], true)
  | a :: b :: rest => (two o a b :: (twos o rest).1, (twos o rest).2)

/-- The units of four bytes, and whether bytes are left over. -/
def fours (o : Order) : List UInt8 → List Nat × Bool
  | [] => ([], false)
  | a :: b :: c :: d :: rest => (four o a b c d :: (fours o rest).1, (fours o rest).2)
  | _ => ([], true)

/-- The characters of units of two bytes. -/
def pairUp : List Nat → List Char
  | [] => []
  | [n] => [Surrogate.ofUnit n]
  | n :: m :: rest =>
    if Surrogate.isHigh n ∧ Surrogate.isLow m then Surrogate.pair n m :: pairUp rest
    else Surrogate.ofUnit n :: pairUp (m :: rest)

/-- The character of a unit of four bytes, if it is a code point. -/
def point? (n : Nat) : Option Char :=
  if n ≤ 0x10FFFF then some (Surrogate.ofUnit n) else none

end ImageRelease.Text.Units
