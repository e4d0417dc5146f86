import ImageRelease.Packing.Bits
/-!
Unpacking of blocks.

A block is stored, or it is a row of symbols in codes of bits. A symbol is a byte, the end of the
block, or a length that comes with a distance: so many bytes are again what was so far back. The
codes are fixed or told at the start of the block, by the lengths of their words. What has been
unpacked when the bytes are over is kept.
-/

namespace ImageRelease.Packing

/-! ### Codes -/

/-- A code: the symbols with words of each length, from one bit on and in order. -/
structure Code where
  words : List (List Nat)

namespace Code

/-- The code of the lengths of words, one for each symbol; zero is a symbol without a word. -/
def ofLengths (lengths : List Nat) : Code where
  words := (List.range (lengths.foldl max 0)).map fun n =>
    (lengths.zipIdx.filter (·.1 = n + 1)).map (·.2)

def maxLength (c : Code) : Nat := c.words.length

/-- The symbols with words of a length. -/
def symbols (c : Code) (length : Nat) : List Nat :=
  c.words.getD (length - 1) []

/-- How many words of a length are free when those of the shorter lengths are taken, if there are
enough. -/
def left? (c : Code) : Nat → Option Nat
  | 0 => some 1
  | n + 1 => do
    let free := 2 * (← c.left? n)
    let taken := (c.symbols (n + 1)).length
    if free < taken then none else some (free - taken)

/-- Whether the words are a code: none is the start of another, and no bits are without a word but
where there is only one word of one bit, or none at all. -/
def isGood (c : Code) (mayLack : Bool) : Bool :=
  match c.left? c.maxLength with
  | none => false
  | some left => c.maxLength == 0 || left == 0 || (mayLack && c.maxLength == 1)

/-- The symbol of the next word. `value` is what has been read of it as a number, and `first` the
number of the first word of this length. Bits that can be no word are no symbol. -/
def readFrom (c : Code) (value first : Nat) :
    (length fuel : Nat) → Bits → Except Stop (Option Nat × Bits)
  | _, 0, b => .ok (none, b)
  | length, fuel + 1, b => do
    let (x, b) ← b.bit
    let value := 2 * value + x
    let words := c.symbols length
    if value < first + words.length then return (words[value - first]?, b)
    else readFrom c value (2 * (first + words.length)) (length + 1) fuel b

def read (c : Code) (b : Bits) : Except Stop (Option Nat × Bits) :=
  c.readFrom 0 0 1 (max 1 c.maxLength) b

end Code

/-- The codes of a block, for bytes and lengths and for distances. -/
structure Codes where
  symbols : Code
  distances : Code

namespace Codes

def fixed : Codes where
  symbols :=
    .ofLengths (List.replicate 144 8 ++ List.replicate 112 9 ++ List.replicate 24 7 ++
      List.replicate 8 8)
  distances := .ofLengths (List.replicate 32 5)

/-- The order in which the lengths of the words for lengths are told. -/
def order : List Nat := [16, 17, 18, 0, 8, 7, 9, 6, 10, 5, 11, 4, 12, 3, 13, 2, 14, 1, 15]

def takeMany (bits : Nat) : (count : Nat) → Bits → Except Stop (List Nat × Bits)
  | 0, b => .ok ([], b)
  | n + 1, b => do
    let (x, b) ← b.take bits
    let (l, b) ← takeMany bits n b
    return (x :: l, b)

/-- The lengths of words, told by a code of their own: a length, the last one again, or zeros. -/
def lengths (c : Code) (total : Nat) :
    (fuel : Nat) → List Nat → Bits → Except Stop (List Nat × Bits)
  | 0, l, b => .ok (l, b)
  | fuel + 1, l, b =>
    if total ≤ l.length then .ok (l, b)
    else do
      let (symbol, b) ← c.read b
      let repeated (x least bits : Nat) (b : Bits) : Except Stop (List Nat × Bits) := do
        let (n, b) ← b.take bits
        if total < l.length + (least + n) then .error (.fault "invalid bit length repeat")
        else lengths c total fuel (l ++ List.replicate (least + n) x) b
      match symbol.getD 0 with
      | 16 =>
        match l.getLast? with
        | some x => repeated x 3 2 b
        | none =>
          let _ ← b.take 2
          .error (.fault "invalid bit length repeat")
      | 17 => repeated 0 3 3 b
      | 18 => repeated 0 11 7 b
      | x => lengths c total fuel (l ++ [x]) b

/-- The codes that the start of a block tells. -/
def told (b : Bits) : Except Stop (Codes × Bits) := do
  let (head, b) ← b.take 14
  let count := head % 32 + 257
  let distances := head / 32 % 32 + 1
  if 286 < count ∨ 30 < distances then
    .error (.fault "too many length or distance symbols")
  let (given, b) ← takeMany 3 (head / 1024 + 4) b
  let ofLengths : Code :=
    .ofLengths ((List.range 19).map fun s => ((order.zip given).lookup s).getD 0)
  if !ofLengths.isGood false then .error (.fault "invalid code lengths set")
  let (l, b) ← lengths ofLengths (count + distances) (count + distances) [] b
  if l[256]? = some 0 then .error (.fault "invalid code -- missing end-of-block")
  let symbols : Code := .ofLengths (l.take count)
  if !symbols.isGood true then .error (.fault "invalid literal/lengths set")
  let distances : Code := .ofLengths (l.drop count)
  if !distances.isGood true then .error (.fault "invalid distances set")
  return (⟨symbols, distances⟩, b)

end Codes

/-! ### Blocks -/

/-- The least length of each symbol of a length, with the bits that are added to it. -/
def lengthBases : List (Nat × Nat) :=
  [(3, 0), (4, 0), (5, 0), (6, 0), (7, 0), (8, 0), (9, 0), (10, 0), (11, 1), (13, 1), (15, 1),
    (17, 1), (19, 2), (23, 2), (27, 2), (31, 2), (35, 3), (43, 3), (51, 3), (59, 3), (67, 4),
    (83, 4), (99, 4), (115, 4), (131, 5), (163, 5), (195, 5), (227, 5), (258, 0)]

/-- The least distance of each symbol, with the bits that are added to it. -/
def distanceBases : List (Nat × Nat) :=
  [(1, 0), (2, 0), (3, 0), (4, 0)] ++
    (List.range 13).flatMap fun k =>
      [(4 * Nat.pow 2 k + 1, k + 1), (6 * Nat.pow 2 k + 1, k + 1)]

/-- A least value with the bits that are added to it. -/
def added (base : Nat × Nat) (b : Bits) : Except Stop (Nat × Bits) := do
  let (x, b) ← b.take base.2
  return (base.1 + x, b)

/-- What has been unpacked, last byte first, and where reading goes on or why it does not. -/
structure Unpacked where
  bytes : List UInt8
  next : Except Stop Bits

/-- The bytes that were so far back again, as many as asked for. -/
def again (distance : Nat) : (count : Nat) → List UInt8 → List UInt8
  | 0, out => out
  | n + 1, out => again distance n (out.getD (distance - 1) 0 :: out)

inductive Symbol
  | byte (b : UInt8)
  | endOfBlock
  | copy (length distance : Nat)

/-- The next symbol, when so many bytes have been unpacked. -/
def Codes.symbol (c : Codes) (past : Nat) (b : Bits) : Except Stop (Symbol × Bits) := do
  let (s, b) ← c.symbols.read b
  match s with
  | none => .error (.fault "invalid literal/length code")
  | some s =>
    if s < 256 then return (.byte (UInt8.ofNat s), b)
    else if s = 256 then return (.endOfBlock, b)
    else match lengthBases[s - 257]? with
      | none => .error (.fault "invalid literal/length code")
      | some base =>
        let (length, b) ← added base b
        let (d, b) ← c.distances.read b
        match d.bind (distanceBases[·]?) with
        | none => .error (.fault "invalid distance code")
        | some base =>
          let (distance, b) ← added base b
          if past < distance then .error (.fault "invalid distance too far back")
          else return (.copy length distance, b)

/-- A block in codes. A symbol takes a bit at least. -/
def Codes.unpack (c : Codes) : (fuel past : Nat) → List UInt8 → Bits → Unpacked
  | 0, _, out, b => ⟨out, .ok b⟩
  | fuel + 1, past, out, b =>
    match c.symbol past b with
    | .error stop => ⟨out, .error stop⟩
    | .ok (.byte x, b) => c.unpack fuel (past + 1) (x :: out) b
    | .ok (.endOfBlock, b) => ⟨out, .ok b⟩
    | .ok (.copy length distance, b) =>
      c.unpack fuel (past + length) (again distance length out) b

/-- A stored block: its length, the same with all bits turned, and its bytes. -/
def stored (out : List UInt8) (b : Bits) : Unpacked :=
  match b.align.rest with
  | l :: h :: l' :: h' :: rest =>
    if l ^^^ l' = 0xFF ∧ h ^^^ h' = 0xFF then
      let length := 256 * h.toNat + l.toNat
      ⟨(rest.take length).reverse ++ out,
        if rest.length < length then .error .short else .ok ⟨0, 0, rest.drop length⟩⟩
    else ⟨out, .error (.fault "invalid stored block lengths")⟩
  | _ => ⟨out, .error .short⟩

/-- How many bits are to come. -/
def Bits.total (b : Bits) : Nat := b.count + 8 * b.rest.length

/-- A block of a kind. -/
def block (kind : Nat) (out : List UInt8) (b : Bits) : Unpacked :=
  match kind with
  | 0 => stored out b
  | 1 => Codes.fixed.unpack b.total out.length out b
  | 2 =>
    match Codes.told b with
    | .ok (codes, b) => codes.unpack b.total out.length out b
    | .error stop => ⟨out, .error stop⟩
  | _ => ⟨out, .error (.fault "invalid block type")⟩

/-- Blocks up to the last one. A block takes three bits at least. -/
def inflateFrom : (fuel : Nat) → List UInt8 → Bits → Unpacked
  | 0, out, b => ⟨out, .ok b⟩
  | fuel + 1, out, b =>
    match b.take 3 with
    | .error stop => ⟨out, .error stop⟩
    | .ok (head, b) =>
      let u := block (head / 2) out b
      match u.next with
      | .error _ => u
      | .ok b => if head % 2 = 1 then u else inflateFrom fuel u.bytes b

/-- Unpacks blocks; the bytes are in order. -/
def inflate (bytes : List UInt8) : Unpacked :=
  let u := inflateFrom (8 * bytes.length) [] { rest := bytes }
  { u with bytes := u.bytes.reverse }

end ImageRelease.Packing
