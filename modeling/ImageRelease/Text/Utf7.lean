import ImageRelease.Text.CodePage
import ImageRelease.Text.Surrogate
/-!
Bytes as text in UTF-7.

Most ASCII characters stand for themselves. After a plus sign come letters of six bits each that
spell units of sixteen, until a byte that is no such letter; a hyphen there is passed over. What
spells no character is read as the replacement character.
-/

namespace ImageRelease.Text.Utf7

def letter? (b : UInt8) : Option Nat :=
  let n := b.toNat
  if 0x41 ≤ n ∧ n ≤ 0x5A then some (n - 0x41)
  else if 0x61 ≤ n ∧ n ≤ 0x7A then some (n - 0x47)
  else if 0x30 ≤ n ∧ n ≤ 0x39 then some (n + 4)
  else if n = 0x2B then some 62
  else if n = 0x2F then some 63
  else none

/-- Letters in the midst of being read: the bits that make no unit yet, and a high surrogate. -/
structure Run where
  bits : Nat := 0
  count : Nat := 0
  high : Option Nat := none

/-- The characters that six more bits complete. -/
def Run.add (r : Run) (six : Nat) : List Char × Run :=
  let bits := r.bits * 64 + six
  let count := r.count + 6
  if count < 16 then ([], { r with bits, count })
  else
    let unit := bits / Nat.pow 2 (count - 16)
    let rest : Run := { bits := bits % Nat.pow 2 (count - 16), count := count - 16 }
    match r.high with
    | some high =>
      if Surrogate.isLow unit then ([Surrogate.pair high unit], rest)
      else if Surrogate.isHigh unit then
        ([Surrogate.ofUnit high], { rest with high := some unit })
      else ([Surrogate.ofUnit high, Surrogate.ofUnit unit], rest)
    | none =>
      if Surrogate.isHigh unit then ([], { rest with high := some unit })
      else ([Surrogate.ofUnit unit], rest)

/-- Whether bits are left that no writer leaves. -/
def Run.isRagged (r : Run) : Bool :=
  6 ≤ r.count || 0 < r.count && r.bits != 0

/-- Whether a byte stands for itself where letters end. -/
def isDirect (b : UInt8) : Bool :=
  b < 0x80 && b != 0x2B

def plain (b : UInt8) : Char := Char.ofNat b.toNat

/-- Reads on, within letters if there is a run of them. `isFirst` tells whether the plus sign has
just been read. -/
def decodeFrom (isFirst : Bool) : Option Run → List UInt8 → List Char
  | none, [] => []
  | some r, [] => if r.high.isSome || r.isRagged then [replacement] else []
  | none, b :: rest =>
    if b = 0x2B then decodeFrom true (some {}) rest
    else (if b < 0x80 then plain b else replacement) :: decodeFrom false none rest
  | some r, b :: rest =>
    match letter? b with
    | some six => (r.add six).1 ++ decodeFrom false (some (r.add six).2) rest
    | none =>
      if isFirst then
        (if b = 0x2D then '+' else replacement) :: decodeFrom false none rest
      else if r.isRagged then replacement :: decodeFrom false none rest
      else
        let high := if isDirect b then (r.high.map Surrogate.ofUnit).toList else []
        high ++ (if b = 0x2D then [] else [if b < 0x80 then plain b else replacement]) ++
          decodeFrom false none rest

def decode (bytes : List UInt8) : List Char :=
  decodeFrom false none bytes

end ImageRelease.Text.Utf7
