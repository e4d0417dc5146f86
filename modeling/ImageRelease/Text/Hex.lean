/-!
Numbers in base sixteen, with small letters and a fixed number of places, and the escapes that
consist of them.
-/

namespace ImageRelease.Text

def hexDigit (n : Nat) : Char :=
  if n < 10 then Char.ofNat (0x30 + n) else Char.ofNat (0x57 + n)

/-- The last `places` digits of a number. -/
def hex : (places : Nat) → Nat → List Char
  | 0, _ => []
  | k + 1, n => hex k (n / 16) ++ [hexDigit (n % 16)]

def hexValue? (c : Char) : Option Nat :=
  if '0' ≤ c ∧ c ≤ '9' then some (c.toNat - 0x30)
  else if 'a' ≤ c ∧ c ≤ 'f' then some (c.toNat - 0x57)
  else if 'A' ≤ c ∧ c ≤ 'F' then some (c.toNat - 0x37)
  else none

/-- A number as an escape of two, four or eight digits, the shortest that holds it. -/
def escaped (n : Nat) : List Char :=
  if n ≤ 0xFF then '\\' :: 'x' :: hex 2 n
  else if n ≤ 0xFFFF then '\\' :: 'u' :: hex 4 n
  else '\\' :: 'U' :: hex 8 n

theorem length_hex (places n : Nat) : (hex places n).length = places := by
  induction places generalizing n with
  | zero => rfl
  | succ k ih => simp [hex, ih]

end ImageRelease.Text
