import ImageRelease.Text.Piece
import ImageRelease.Text.Table.Extra932
import ImageRelease.Text.Table.Jis0208
import ImageRelease.Text.Table.Jis0212
import ImageRelease.Text.Table.Jis0213
import ImageRelease.Text.Table.Jis0213Second
/-!
Japanese charsets.

A row and a cell of JIS X 0208 are either two bytes from A1 on, or a pair that is shifted: two rows
to a first byte, and a second byte from 40 on. Half-width kana are single bytes when shifted, and
stand after a byte 8E otherwise; a second table stands after 8F. JIS X 0213 has more characters in
both tables, and its second edition a few more.
-/

namespace ImageRelease.Text.Japanese

inductive Edition
  | first
  | second
  deriving DecidableEq, Repr

def kana? (b : Nat) : Option Char :=
  if 0xA1 ≤ b ∧ b ≤ 0xDF then some (Char.ofNat (0xFEC0 + b)) else none

def isTrail (b : Nat) : Bool := 0x40 ≤ b && b ≤ 0xFC && b != 0x7F

/-- The row and the cell of a shifted pair, counted from zero. -/
def unshift? (a b : Nat) : Option (Nat × Nat) :=
  if isTrail b ∧ (0x81 ≤ a ∧ a ≤ 0x9F ∨ 0xE0 ≤ a ∧ a ≤ 0xFC) then
    let lead := if a < 0xE0 then a - 0x81 else a - 0xC1
    let trail := if b < 0x80 then b - 0x40 else b - 0x41
    some (2 * lead + trail / 94, trail % 94)
  else none

/-- The row and the cell of two bytes from A1 on. -/
def cell? (a b : Nat) : Option (Nat × Nat) :=
  if 0xA1 ≤ a ∧ a ≤ 0xFE ∧ 0xA1 ≤ b ∧ b ≤ 0xFE then some (a - 0xA1, b - 0xA1) else none

/-! ### JIS X 0213 -/

/-- The characters that only the second edition has. -/
def latecomers : List (Nat × Nat) :=
  [(13, 0), (14, 93), (46, 51), (46, 93), (83, 6), (93, 89), (93, 90), (93, 91), (93, 92),
    (93, 93)]

/-- The cells of two characters. -/
def doubles : List ((Nat × Nat) × List Nat) :=
  [((3, 86), [0x304B, 0x309A]), ((3, 87), [0x304D, 0x309A]), ((3, 88), [0x304F, 0x309A]),
    ((3, 89), [0x3051, 0x309A]), ((3, 90), [0x3053, 0x309A]), ((4, 86), [0x30AB, 0x309A]),
    ((4, 87), [0x30AD, 0x309A]), ((4, 88), [0x30AF, 0x309A]), ((4, 89), [0x30B1, 0x309A]),
    ((4, 90), [0x30B3, 0x309A]), ((4, 91), [0x30BB, 0x309A]), ((4, 92), [0x30C4, 0x309A]),
    ((4, 93), [0x30C8, 0x309A]), ((5, 87), [0x31F7, 0x309A]), ((10, 35), [0xE6, 0x300]),
    ((10, 39), [0x254, 0x300]), ((10, 40), [0x254, 0x301]), ((10, 41), [0x28C, 0x300]),
    ((10, 42), [0x28C, 0x301]), ((10, 43), [0x259, 0x300]), ((10, 44), [0x259, 0x301]),
    ((10, 45), [0x25A, 0x300]), ((10, 46), [0x25A, 0x301]), ((10, 68), [0x2E9, 0x2E5]),
    ((10, 69), [0x2E5, 0x2E9])]

/-- Whether a cell of the first plane is empty because its character came late. -/
def isEarly (e : Edition) (row cell : Nat) : Bool :=
  e == .first && latecomers.contains (row, cell)

/-- The characters of a cell of the first plane; those of JIS X 0208 are part of it. -/
def firstPlane? (e : Edition) (row cell : Nat) : Option (List Char) :=
  if isEarly e row cell then none
  else match doubles.lookup (row, cell) with
    | some l => some (l.map Char.ofNat)
    | none =>
      ((Table.jis0208.char? row cell).orElse fun _ => Table.jis0213.char? row cell).map ([·])

def secondPlane? (e : Edition) (row cell : Nat) : Option Char :=
  if e = .first ∧ (row, cell) = (92, 26) then some (Char.ofNat 0x9B1D)
  else Table.jis0213Second.char? row cell

/-- The rows of the second plane in the order of their shifted pairs. -/
def secondRows : List Nat :=
  [0, 7, 2, 3, 4, 11, 12, 13, 14, 77] ++ (List.range 16).map (78 + ·)

end Japanese

/-! ### The charsets -/

inductive Japanese
  | shifted
  | page932
  | extended
  | shifted0213 (e : Japanese.Edition)
  | extended0213 (e : Japanese.Edition)
  deriving DecidableEq, Repr

namespace Japanese

def pair932? (a b : Nat) : Option Char := do
  let (row, cell) ← unshift? a b
  match [((0, 32), 0xFF5E), ((0, 33), 0x2225), ((0, 60), 0xFF0D), ((0, 80), 0xFFE0),
      ((0, 81), 0xFFE1), ((1, 43), 0xFFE2)].lookup (row, cell) with
  | some n => some (Char.ofNat n)
  | none =>
    if row = 12 then Table.extra932.char? 0 cell
    else if 88 ≤ row ∧ row ≤ 91 then Table.extra932.char? (row - 87) cell
    else if 114 ≤ row then Table.extra932.char? (row - 109) cell
    else if 94 ≤ row then some (Char.ofNat (0xE000 + 94 * (row - 94) + cell))
    else Table.jis0208.char? row cell

def single932? (n : Nat) : Option Char :=
  if n ≤ 0x80 then some (Char.ofNat n)
  else if n = 0xA0 then some (Char.ofNat 0xF8F0)
  else if 0xFD ≤ n then some (Char.ofNat (0xF7F4 + n))
  else kana? n

/-- The piece of a cell of the first plane. An empty cell whose character came late is passed over
with both its bytes. -/
def firstPiece (e : Edition) (row cell : Nat) : Piece :=
  match firstPlane? e row cell with
  | some l => .read l 2
  | none => .refused (if isEarly e row cell then 2 else 1)

/-- The next piece where the byte 8E leads kana and the byte 8F a further table. -/
def extendedPiece (first : Nat → Nat → Piece) (second : Nat → Nat → Option Char)
    (a : UInt8) (rest : List UInt8) : Piece :=
  match a.toNat, rest with
  | 0x8E, b :: _ => Piece.ofChar? (kana? b.toNat) 2
  | 0x8F, b :: c :: _ =>
    Piece.ofChar? ((cell? b.toNat c.toNat).bind fun (row, cell) => second row cell) 3
  | 0x8F, _ => .unfinished
  | a, rest =>
    if a < 0x80 then .read [Char.ofNat a] 1
    else match rest with
      | b :: _ =>
        match cell? a b.toNat with
        | some (row, cell) => first row cell
        | none => .refused 1
      | [] => .unfinished

/-- The next piece of a shifted text with JIS X 0213. -/
def shifted0213Piece (e : Edition) (a : UInt8) (rest : List UInt8) : Piece :=
  match a.toNat, rest with
  | 0x5C, _ => .read [Char.ofNat 0xA5] 1
  | 0x7E, _ => .read [Char.ofNat 0x203E] 1
  | a, rest =>
    if a < 0x80 then .read [Char.ofNat a] 1
    else match kana? a, rest with
      | some c, _ => .read [c] 1
      | none, [] => .unfinished
      | none, b :: _ =>
        match unshift? a b.toNat with
        | none => .refused 1
        | some (0, 31) => .read ['\\'] 2
        | some (1, 17) => .read ['~'] 2
        | some (row, cell) =>
          if row < 94 then firstPiece e row cell
          else Piece.ofChar? (secondRows[row - 94]?.bind (secondPlane? e · cell)) 2

def next : Japanese → UInt8 → List UInt8 → Piece
  | shifted =>
    Piece.singleOrPair (fun n => (Piece.ascii? n).orElse fun _ => kana? n) fun a b =>
      (unshift? a b).bind fun (row, cell) => Table.jis0208.char? row cell
  | page932 => Piece.singleOrPair single932? pair932?
  | extended =>
    extendedPiece (fun row cell => Piece.ofChar? (Table.jis0208.char? row cell) 2)
      Table.jis0212.char?
  | shifted0213 e => shifted0213Piece e
  | extended0213 e =>
    extendedPiece (firstPiece e) fun row cell =>
      (secondPlane? e row cell).orElse fun _ => Table.jis0212.char? row cell

end Japanese

end ImageRelease.Text
