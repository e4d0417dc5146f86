import ImageRelease.Packing.Inflate
/-!
Packed bytes with a head before the blocks and a sum of the bytes after them.

There are two kinds of wrappers, `zlib` and `gzip`. What comes behind the sum counts for nothing,
and a wrapper that is not whole is unpacked as far as it goes.
-/

namespace ImageRelease.Packing

/-- Two sums modulo a prime, the second of the first. -/
def adler (bytes : List UInt8) : Nat :=
  let (a, b) := bytes.foldl
    (fun (a, b) x => ((a + x.toNat) % 65521, (b + a + x.toNat) % 65521)) (1, 0)
  65536 * b + a

def crcBit (r : UInt32) : UInt32 :=
  if r % 2 = 1 then (r >>> 1) ^^^ 0xEDB88320 else r >>> 1

def crcBits : (count : Nat) → UInt32 → UInt32
  | 0, r => r
  | n + 1, r => crcBits n (crcBit r)

def crcByte (r : UInt32) (x : UInt8) : UInt32 :=
  crcBits 8 (r ^^^ x.toUInt32)

/-- The remainder of bytes as a polynomial. -/
def crc (bytes : List UInt8) : Nat :=
  (bytes.foldl crcByte 0xFFFFFFFF ^^^ 0xFFFFFFFF).toNat

/-- The number of bytes, lowest first. -/
def number (bytes : List UInt8) : Nat :=
  bytes.foldr (fun x n => x.toNat + 256 * n) 0

/-- Blocks up to their end, with the bytes behind them; none of those if the end is not there. -/
def blocks (bytes : List UInt8) : Except String (List UInt8 × Option (List UInt8)) :=
  let u := inflate bytes
  match u.next with
  | .ok b => .ok (u.bytes, some b.rest)
  | .error .short => .ok (u.bytes, none)
  | .error (.fault message) => .error message

def bare (bytes : List UInt8) : Except String (List UInt8) :=
  (blocks bytes).map (·.1)

/-- Checks a number behind the blocks as far as it is there. -/
def check (given : List UInt8) (expected : Nat) (message : String) : Except String Unit :=
  if given.length < 4 ∨ number (given.take 4) = expected then .ok () else .error message

def zlib (bytes : List UInt8) : Except String (List UInt8) :=
  match bytes with
  | a :: b :: rest =>
    if (256 * a.toNat + b.toNat) % 31 ≠ 0 then .error "incorrect header check"
    else if a % 16 ≠ 8 then .error "unknown compression method"
    else if 0x80 ≤ a then .error "invalid window size"
    else if b &&& 0x20 ≠ 0 then .error "need dictionary"
    else do
      let (out, behind) ← blocks rest
      check ((behind.getD []).take 4).reverse (adler out) "incorrect data check"
      return out
  | _ => .ok []

/-- The bytes behind a part that ends with a zero byte, if the flag is set. -/
def behindZero (isThere : Bool) (bytes : List UInt8) : Option (List UInt8) :=
  if !isThere then some bytes
  else match bytes.dropWhile (· != 0) with
    | _ :: rest => some rest
    | [] => none

/-- The bytes behind a part that begins with its length, if the flag is set. -/
def behindExtra (isThere : Bool) : List UInt8 → Option (List UInt8)
  | l :: h :: rest =>
    if !isThere then some (l :: h :: rest)
    else
      let length := number [l, h]
      if rest.length < length then none else some (rest.drop length)
  | short => if isThere then none else some short

def gzip (bytes : List UInt8) : Except String (List UInt8) :=
  match bytes with
  | [] | [_] => .ok []
  | 0x1F :: 0x8B :: method :: flags :: rest =>
    let has (flag : UInt8) : Bool := flags &&& flag != 0
    if method ≠ 8 then .error "unknown compression method"
    else if flags &&& 0xE0 ≠ 0 then .error "unknown header flags set"
    else if rest.length < 6 then .ok []
    else
      match ((behindExtra (has 0x04) (rest.drop 6)).bind (behindZero (has 0x08))).bind
          (behindZero (has 0x10)) with
      | none => .ok []
      | some body =>
        if has 0x02 ∧ body.length < 2 then .ok []
        else
          let head := bytes.take (bytes.length - body.length)
          if has 0x02 ∧ number (body.take 2) ≠ crc head % 65536 then .error "header crc mismatch"
          else do
            let (out, behind) ← blocks (if has 0x02 then body.drop 2 else body)
            let behind := behind.getD []
            check (behind.take 4) (crc out) "incorrect data check"
            check (behind.drop 4) (out.length % 0x100000000) "incorrect length check"
            return out
  | 0x1F :: 0x8B :: _ => .ok []
  | _ => .error "incorrect header check"

/-- The ways of packing. -/
inductive Method
  | gzip
  | deflate
  deriving DecidableEq, Repr

/-- Unpacks by a method. What is not in its wrapper is taken to have none if it can be. -/
def Method.unpack (bytes : List UInt8) : Method → Except String (List UInt8)
  | .gzip => Packing.gzip bytes
  | .deflate =>
    match zlib bytes with
    | .ok out => .ok out
    | .error _ => bare bytes

end ImageRelease.Packing
