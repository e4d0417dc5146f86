import ImageRelease.Text.Piece
import ImageRelease.Text.Table.KsX1001
/-!
Korean charsets.

A syllable is an initial, a vowel and perhaps a final, and its code point counts them. KS X 1001 has
the usual syllables, signs and hanja in two bytes from A1 on, and spells other syllables by eight
bytes; page 949 puts those in the pairs that are left, in order; Johab has five bits for each letter
of a syllable.
-/

namespace ImageRelease.Text

inductive Korean
  | extended
  | page949
  | johab
  deriving DecidableEq, Repr

namespace Korean

def initials : List Char := "ㄱㄲㄴㄷㄸㄹㅁㅂㅃㅅㅆㅇㅈㅉㅊㅋㅌㅍㅎ".toList

def finals : List Char := "ㄱㄲㄳㄴㄵㄶㄷㄹㄺㄻㄼㄽㄾㄿㅀㅁㅂㅄㅅㅆㅇㅈㅊㅋㅌㅍㅎ".toList

def firstVowel : Nat := 0x314F

/-- The letter that holds the place of one that is not there. -/
def filler : Nat := 0x3164

/-- The syllable of the letters that have these places; no final is zero. -/
def syllable (initial vowel final : Nat) : Char :=
  Char.ofNat (0xAC00 + 588 * initial + 28 * vowel + final)

def standard? (a b : Nat) : Option Char :=
  if 0xA1 ≤ a ∧ 0xA1 ≤ b then Table.ksX1001.char? (a - 0xA1) (b - 0xA1) else none

/-! ### Eight bytes -/

/-- The letter at a place of the row of letters. -/
def letter? (b : UInt8) : Option Char := standard? 0xA4 b.toNat

/-- The syllable of three letters. -/
def spelled? (initial vowel final : Char) : Option Char := do
  let i ← initials.idxOf? initial
  let f ← if final.toNat = filler then some 0 else (finals.idxOf? final).map (· + 1)
  if firstVowel ≤ vowel.toNat ∧ vowel.toNat < firstVowel + 21 then
    some (syllable i (vowel.toNat - firstVowel) f)
  else none

def extendedPiece (a : UInt8) (rest : List UInt8) : Piece :=
  match a, rest with
  | 0xA4, 0xD4 :: x :: b :: y :: c :: z :: d :: _ =>
    if x = 0xA4 ∧ y = 0xA4 ∧ z = 0xA4 then
      Piece.ofChar? (do spelled? (← letter? b) (← letter? c) (← letter? d)) 8
    else .refused 1
  | 0xA4, 0xD4 :: _ => .unfinished
  | _, _ => Piece.singleOrPair Piece.ascii? standard? a rest

/-! ### Page 949 -/

/-- The syllables that KS X 1001 has, in order. -/
def usual : List Char := (Table.ksX1001.rows.toList.drop 15).take 25 |>.flatMap String.toList

/-- The syllable of a number among those that are not usual. The usual ones up to a syllable are
counted by going through them in order. -/
def unusual? (n : Nat) : Option Char :=
  let code := usual.foldl (fun code c => if c.toNat ≤ code then code + 1 else code) (0xAC00 + n)
  if code ≤ 0xD7A3 then some (Char.ofNat code) else none

/-- The column of a second byte among letters and high bytes. -/
def column? (b : Nat) : Option Nat :=
  if 0x41 ≤ b ∧ b ≤ 0x5A then some (b - 0x41)
  else if 0x61 ≤ b ∧ b ≤ 0x7A then some (b - 0x47)
  else if 0x81 ≤ b ∧ b ≤ 0xFE then some (b - 0x4D)
  else none

def pair949? (a b : Nat) : Option Char :=
  (standard? a b).orElse fun _ => do
    let column ← column? b
    if a < 0x81 ∨ 0xA1 ≤ a ∧ 0xA1 ≤ b ∨ 0xC7 ≤ a then none
    else if a ≤ 0xA0 then unusual? (178 * (a - 0x81) + column)
    else unusual? (178 * 32 + 84 * (a - 0xA1) + column)

/-! ### Johab -/

/-- The place of a vowel by its five bits. -/
def vowel? (n : Nat) : Option Nat :=
  if 3 ≤ n ∧ n ≤ 29 ∧ n % 8 ≥ 2 then some (n - 3 - 2 * (n / 8)) else none

/-- The place of a final by its five bits, counted from one. -/
def final? (n : Nat) : Option Nat :=
  if 2 ≤ n ∧ n ≤ 17 then some (n - 1)
  else if 19 ≤ n ∧ n ≤ 29 then some (n - 2)
  else none

/-- A syllable or a letter by three times five bits. -/
def bits? (n : Nat) : Option Char :=
  let (i, v, f) := (n / 1024 % 32, n / 32 % 32, n % 32)
  let initial := if 2 ≤ i ∧ i ≤ 20 then some (i - 2) else none
  match initial, vowel? v, final? f with
  | some i, some v, some f => some (syllable i v f)
  | some i, some v, none => if f = 1 then some (syllable i v 0) else none
  | some i, none, none => if v = 2 ∧ f = 1 then initials[i]? else none
  | none, some v, none => if i = 1 ∧ f = 1 then some (Char.ofNat (firstVowel + v)) else none
  | none, none, some f => if i = 1 ∧ v = 2 then finals[f - 1]? else none
  | none, none, none =>
    if i = 1 ∧ v = 2 ∧ f = 1 then some (Char.ofNat 0x3000) else none
  | _, _, _ => none

/-- A character of KS X 1001 that is no letter, two rows to a first byte. -/
def sign? (a b : Nat) : Option Char :=
  if a = 0xDF ∨ 0xF9 < a ∨ b < 0x31 ∨ 0x80 ≤ b ∧ b < 0x91 ∨ b = 0x7F ∨ b = 0xFF ∨
      a = 0xDA ∧ 0xA1 ≤ b ∧ b ≤ 0xD3 then none
  else
    let row := if a < 0xE0 then 2 * (a - 0xD9) else 2 * a - 0x197
    let column := if b < 0x91 then b - 0x31 else b - 0x43
    Table.ksX1001.char? (row + column / 94) (column % 94)

def pairJohab? (a b : Nat) : Option Char :=
  if a < 0xD8 then bits? (256 * a + b) else if a = 0xD8 then none else sign? a b

def next : Korean → UInt8 → List UInt8 → Piece
  | extended => extendedPiece
  | page949 => Piece.singleOrPair Piece.ascii? pair949?
  | johab => Piece.singleOrPair Piece.ascii? pairJohab?

end Korean

end ImageRelease.Text
