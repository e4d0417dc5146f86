import ImageRelease.Text.Chinese
import ImageRelease.Text.CodePage.Iso
import ImageRelease.Text.Japanese
import ImageRelease.Text.Korean
/-!
Charsets of seven bits, where sequences of bytes switch between sets of characters.

An escape ends at a capital letter and designates the set of a place: the first is in use, the
second after a shift, the third for one character after an escape of its own. A text begins with
ASCII at every place. An escape that is none of those is text up to its end.
-/

namespace ImageRelease.Text

/-- A set of characters of one byte or two. -/
inductive Switched.Set
  | ascii
  | roman
  | kana
  | oldJis
  | jis
  | jisSupplement
  | jis0213 (e : Japanese.Edition)
  | jis0213Second (e : Japanese.Edition)
  | gb2312
  | ksX1001
  | latin
  | greek
  deriving DecidableEq, Repr

/-- The sets that a charset may designate, and what else it has. -/
structure Switched where
  sets : List Switched.Set
  isShifting : Bool := false
  hasThird : Bool := false
  hasRevision : Bool := true

namespace Switched

/-- The byte that ends the escape of a set, and whether the set has two bytes a character. -/
def Set.mark : Set → Char × Bool
  | ascii => ('B', false)
  | roman => ('J', false)
  | kana => ('I', false)
  | latin => ('A', false)
  | greek => ('F', false)
  | oldJis => ('@', true)
  | jis => ('B', true)
  | gb2312 => ('A', true)
  | ksX1001 => ('C', true)
  | jisSupplement => ('D', true)
  | jis0213 .first => ('O', true)
  | jis0213 .second => ('Q', true)
  | jis0213Second _ => ('P', true)

/-- The set with a mark. -/
def setOf? (s : Switched) (mark : Char × Bool) : Option Set :=
  (Set.ascii :: s.sets).find? (·.mark == mark)

/-- The characters of bytes in a set. -/
def Set.chars? (set : Set) (a b : Nat) : Option (List Char) :=
  let inRows (table : Nat → Nat → Option Char) : Option (List Char) :=
    if 0x21 ≤ a ∧ 0x21 ≤ b ∧ b ≤ 0x7E then (table (a - 0x21) (b - 0x21)).map ([·]) else none
  match set with
  | ascii => some [Char.ofNat a]
  | roman =>
    some [Char.ofNat (if a = 0x5C then 0xA5 else if a = 0x7E then 0x203E else a)]
  | kana => (Japanese.kana? (a + 0x80)).map ([·])
  | oldJis | jis => inRows Table.jis0208.char?
  | jisSupplement => inRows Table.jis0212.char?
  | jis0213 e =>
    if 0x21 ≤ a ∧ 0x21 ≤ b ∧ b ≤ 0x7E then Japanese.firstPlane? e (a - 0x21) (b - 0x21) else none
  | jis0213Second e => inRows (Japanese.secondPlane? e)
  | gb2312 => (Chinese.gb2312? (a + 0x80) (b + 0x80)).map ([·])
  | ksX1001 => inRows Table.ksX1001.char?
  | latin | greek => none

def isEnd (b : UInt8) : Bool := 0x40 ≤ b && b ≤ 0x5A

/-- The sets in their places, whether the second is in use, and whether an escape goes on. -/
structure State where
  first : Set := .ascii
  second : Set := .ascii
  third : Set := .ascii
  isShifted : Bool := false
  isEscape : Bool := false

/-- How many bytes an escape has with its first; none if it does not end, and zero if it is too
long. `count` is how many have been passed. -/
def escapeLength (hasRevision : Bool) : (count : Nat) → List UInt8 → Option Nat
  | count, [] => if 16 ≤ count then some 0 else none
  | count, b :: rest =>
    if 16 ≤ count then some 0
    else if isEnd b then some (count + 1)
    else if hasRevision ∧ b = 0x26 ∧ rest.head? = some 0x40 then
      escapeLength hasRevision (count + 3) (rest.drop 2)
    else escapeLength hasRevision (count + 1) rest
termination_by _ l => l.length
decreasing_by
  · simp only [List.length_drop, List.length_cons]; omega
  · simp

/-- The place and the mark of an escape without its first byte. -/
def designation? (s : Switched) : List UInt8 → Option (Nat × (Char × Bool))
  | [0x24, c] => some (0, charOf c, true)
  | [0x28, c] => some (0, charOf c, false)
  | [0x29, c] => some (1, charOf c, false)
  | [0x2E, c] => if s.hasThird then some (2, charOf c, false) else none
  | [0x24, 0x28, c] => some (0, charOf c, true)
  | [0x24, 0x29, c] => some (1, charOf c, true)
  | [0x26, 0x40, 0x1B, 0x24, 0x42] => if s.hasRevision then some (0, 'B', true) else none
  | _ => none
where
  charOf (b : UInt8) : Char := Char.ofNat b.toNat

/-- How many bytes of an escape without its end may wait for more. -/
def mostPending : Nat := 8

/-- The next piece after an escape byte that begins a designation. -/
def designate (s : Switched) (st : State) (rest : List UInt8) : State × Piece :=
  match escapeLength s.hasRevision 1 rest with
  | none => (st, if mostPending < rest.length + 1 then .overlong else .unfinished)
  | some 0 => (st, .refused 1)
  | some length =>
    match s.designation? (rest.take (length - 1)) with
    | none => (st, .refused length)
    | some (place, mark) =>
      match s.setOf? mark, place with
      | none, _ => (st, .refused length)
      | some set, 0 => ({ st with first := set }, .read [] length)
      | some set, 1 => ({ st with second := set }, .read [] length)
      | some set, _ => ({ st with third := set }, .read [] length)

/-- The character of the third place. -/
def thirdChar? (set : Set) (b : UInt8) : Option Char :=
  match set with
  | .latin => if b < 0x80 then some (Char.ofNat (b.toNat + 0x80)) else none
  | .greek =>
    let c := (CodePage.iso.find? (·.name == "iso8859_7")).map (·.charOf (b ^^^ 0x80))
    if c = some replacement then none else c
  | _ => if b < 0x80 then some (Char.ofNat b.toNat) else none

def next (s : Switched) (st : State) (a : UInt8) (rest : List UInt8) : State × Piece :=
  let plain : Piece := .read [Char.ofNat a.toNat] 1
  if st.isEscape then ({ st with isEscape := !isEnd a }, plain)
  else if a = 0x1B then
    match rest with
    | [] => (st, .unfinished)
    | b :: more =>
      if [0x28, 0x29, 0x24, 0x2E, 0x26].contains b then s.designate st rest
      else if s.hasThird ∧ b = 0x4E then
        match more with
        | [] => (st, .unfinished)
        | c :: _ =>
          match thirdChar? st.third c with
          | some c => (st, .read [c] 3)
          | none => (st, .refused 3)
      else ({ st with isEscape := true }, plain)
  else if s.isShifting ∧ a = 0x0F then ({ st with isShifted := false }, .read [] 1)
  else if s.isShifting ∧ a = 0x0E then ({ st with isShifted := true }, .read [] 1)
  else if a = 0x0A then ({ st with isShifted := false }, plain)
  else if a < 0x20 then (st, plain)
  else if 0x80 ≤ a then (st, .refused 1)
  else
    let set := if st.isShifted then st.second else st.first
    match set.mark.2, rest with
    | true, [] => (st, .unfinished)
    | true, b :: _ =>
      match set.chars? a.toNat b.toNat with
      | some l => (st, .read l 2)
      | none => (st, .refused 2)
    | false, _ =>
      match set.chars? a.toNat 0 with
      | some l => (st, .read l 1)
      | none => (st, .refused 1)

/-! ### The charsets -/

def japanese : Switched := ⟨[.jis, .roman, .oldJis], false, false, true⟩

def japanese1 : Switched := { japanese with sets := .jisSupplement :: japanese.sets }

def japanese2 : Switched where
  sets := [.jisSupplement, .ksX1001, .gb2312, .latin, .greek] ++ japanese.sets
  hasThird := true

def japaneseExtended : Switched := { japanese1 with sets := .kana :: japanese1.sets }

/-- With an edition of JIS X 0213. -/
def japanese0213 (e : Japanese.Edition) : Switched where
  sets := [.jis0213 e, .jis0213Second e, .jis]

def korean : Switched where
  sets := [.ksX1001]
  isShifting := true
  hasRevision := false

/-! ### Tildes -/

/-- The next piece where a tilde and a brace switch to GB 2312 and back. -/
def nextTilde (isChinese : Bool) (a : UInt8) (rest : List UInt8) : Bool × Piece :=
  match a.toNat, rest with
  | 0x7E, [] => (isChinese, .unfinished)
  | 0x7E, b :: _ =>
    match isChinese, b.toNat with
    | false, 0x7E => (false, .read ['~'] 2)
    | false, 0x7B => (true, .read [] 2)
    | false, 0x0A => (false, .read [] 2)
    | true, 0x7D => (false, .read [] 2)
    | _, _ => (isChinese, .refused 1)
  | a, rest =>
    if 0x80 ≤ a then (isChinese, .refused 1)
    else if !isChinese then (false, .read [Char.ofNat a] 1)
    else match rest with
      | [] => (true, .unfinished)
      | b :: _ => (true, Piece.ofChar? (Chinese.gb2312? (a + 0x80) (b.toNat + 0x80)) 2)

end Switched

end ImageRelease.Text
