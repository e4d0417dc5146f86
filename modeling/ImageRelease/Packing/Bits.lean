/-!
Bytes bit by bit, the lowest bit of a byte first.
-/

namespace ImageRelease.Packing

/-- Why reading stops: the bytes are over, or they are not what was packed. -/
inductive Stop
  | short
  | fault (message : String)
  deriving DecidableEq, Repr

structure Bits where
  /-- The bits of a byte that has been begun, as a number. -/
  held : Nat := 0
  count : Nat := 0
  rest : List UInt8

namespace Bits

def bit (b : Bits) : Except Stop (Nat × Bits) :=
  if 0 < b.count then .ok (b.held % 2, { b with held := b.held / 2, count := b.count - 1 })
  else match b.rest with
    | [] => .error .short
    | x :: rest => .ok (x.toNat % 2, { held := x.toNat / 2, count := 7, rest })

/-- A number of so many bits. -/
def take : (count : Nat) → Bits → Except Stop (Nat × Bits)
  | 0, b => .ok (0, b)
  | n + 1, b => do
    let (low, b) ← b.bit
    let (high, b) ← take n b
    return (low + 2 * high, b)

def align (b : Bits) : Bits := { rest := b.rest }

end Bits

end ImageRelease.Packing
