import ImageRelease.Text.Table
/-!
Reading bytes piece by piece where a character may take several of them.

A rule tells what the next bytes are, after what it keeps of the bytes before. A piece that is no
character is read as one replacement character, and so is what is left of bytes that end too soon,
unless it is so long that no rule would wait for more.
-/

namespace ImageRelease.Text

/-- What the next bytes are. -/
inductive Piece
  /-- Characters, if any, spelled by so many bytes. -/
  | read (l : List Char) (count : Nat)
  /-- So many bytes that are no character. -/
  | refused (count : Nat)
  /-- The start of more bytes than there are. -/
  | unfinished
  /-- Likewise, but too long a start. -/
  | overlong

namespace Piece

/-- Bytes as text by a rule, unless one of them is the first of too many; a piece takes a byte at
least. -/
def decodeFrom {σ : Type} (next : σ → UInt8 → List UInt8 → σ × Piece) :
    (fuel : Nat) → σ → List UInt8 → Option (List Char)
  | 0, _, _ | _, _, [] => some []
  | fuel + 1, s, b :: rest =>
    match next s b rest with
    | (s, .read l count) => (decodeFrom next fuel s (rest.drop (count - 1))).map (l ++ ·)
    | (s, .refused count) =>
      (decodeFrom next fuel s (rest.drop (count - 1))).map (replacement :: ·)
    | (_, .unfinished) => some [replacement]
    | (_, .overlong) => none

def decode {σ : Type} (next : σ → UInt8 → List UInt8 → σ × Piece) (start : σ)
    (bytes : List UInt8) : Option (List Char) :=
  decodeFrom next bytes.length start bytes

/-- A character of so many bytes, if there is one; else a byte is passed over. -/
def ofChar? (c : Option Char) (count : Nat) : Piece :=
  match c with
  | some c => .read [c] count
  | none => .refused 1

/-- The next piece where a character is a single byte or a pair. -/
def singleOrPair (single : Nat → Option Char) (pair : Nat → Nat → Option Char) (a : UInt8)
    (rest : List UInt8) : Piece :=
  match single a.toNat, rest with
  | some c, _ => .read [c] 1
  | none, b :: _ => ofChar? (pair a.toNat b.toNat) 2
  | none, [] => .unfinished

/-- The character of a byte that is ASCII. -/
def ascii? (n : Nat) : Option Char :=
  if n < 0x80 then some (Char.ofNat n) else none

end Piece

end ImageRelease.Text
