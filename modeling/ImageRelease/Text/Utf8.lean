import ImageRelease.Text.Hex
/-!
Bytes as text in UTF-8, with the place and the cause where they are none.

The decoder is a small machine: between characters it is idle, and within one it knows how many
bytes are to come and which values the next of them may have. The range of that next byte is what
rules out overlong forms, surrogates and values beyond the last code point.
-/

namespace ImageRelease.Text.Utf8

inductive Cause
  | startByte
  | continuationByte
  | endOfData
  deriving DecidableEq, Repr

/-- Where and why bytes are not text: the part from `first` to `last` begins a character that does
not go on. -/
structure Fault where
  byte : UInt8
  first : Nat
  last : Nat
  cause : Cause
  deriving DecidableEq, Repr

/-- A character that has begun. -/
structure Pending where
  /-- The byte that began it. -/
  lead : UInt8
  /-- The bytes read, the first included. -/
  seen : Nat
  /-- The bytes to come, less one. -/
  more : Nat
  /-- The bits read. -/
  bits : Nat
  low : Nat
  high : Nat

/-- What a first byte begins: nothing, a character of its own, or one that goes on. -/
def begin? (b : UInt8) : Option (Char ⊕ Pending) :=
  let n := b.toNat
  if n < 0x80 then some (.inl (Char.ofNat n))
  else if n < 0xC2 then none
  else if n < 0xE0 then some (.inr ⟨b, 1, 0, n - 0xC0, 0x80, 0xBF⟩)
  else if n = 0xE0 then some (.inr ⟨b, 1, 1, 0, 0xA0, 0xBF⟩)
  else if n = 0xED then some (.inr ⟨b, 1, 1, 0xD, 0x80, 0x9F⟩)
  else if n < 0xF0 then some (.inr ⟨b, 1, 1, n - 0xE0, 0x80, 0xBF⟩)
  else if n = 0xF0 then some (.inr ⟨b, 1, 2, 0, 0x90, 0xBF⟩)
  else if n < 0xF4 then some (.inr ⟨b, 1, 2, n - 0xF0, 0x80, 0xBF⟩)
  else if n = 0xF4 then some (.inr ⟨b, 1, 2, 4, 0x80, 0x8F⟩)
  else none

/-- What a next byte makes of a character that has begun: the whole of it, or more of it. -/
def Pending.goOn? (p : Pending) (b : UInt8) : Option (Char ⊕ Pending) :=
  let n := b.toNat
  if p.low ≤ n ∧ n ≤ p.high then
    let bits := p.bits * 64 + (n - 0x80)
    match p.more with
    | 0 => some (.inl (Char.ofNat bits))
    | more + 1 => some (.inr ⟨p.lead, p.seen + 1, more, bits, 0x80, 0xBF⟩)
  else none

/-- Reads on, from position `pos` and in the midst of `pending` if that is a character. -/
def decodeFrom (pos : Nat) : Option Pending → List UInt8 → Except Fault (List Char)
  | none, [] => .ok []
  | some p, [] => .error ⟨p.lead, pos - p.seen, pos - 1, .endOfData⟩
  | none, b :: rest =>
    match begin? b with
    | none => .error ⟨b, pos, pos, .startByte⟩
    | some (.inl c) => (decodeFrom (pos + 1) none rest).map (c :: ·)
    | some (.inr p) => decodeFrom (pos + 1) (some p) rest
  | some p, b :: rest =>
    match p.goOn? b with
    | some (.inl c) => (decodeFrom (pos + 1) none rest).map (c :: ·)
    | some (.inr p) => decodeFrom (pos + 1) (some p) rest
    | none => .error ⟨p.lead, pos - p.seen, pos - 1, .continuationByte⟩

def decode (bytes : List UInt8) : Except Fault (List Char) :=
  decodeFrom 0 none bytes

/-- Reads on in the midst of `pending`, with a replacement for each part that is no character. -/
def decodeLossyFrom (replacement : Char) : Option Pending → List UInt8 → List Char
  | none, [] => []
  | some _, [] => [replacement]
  | pending, b :: rest =>
    match pending.bind (·.goOn? b) with
    | some (.inl c) => c :: decodeLossyFrom replacement none rest
    | some (.inr p) => decodeLossyFrom replacement (some p) rest
    | none =>
      (if pending.isSome then [replacement] else []) ++
        match begin? b with
        | some (.inl c) => c :: decodeLossyFrom replacement none rest
        | some (.inr p) => decodeLossyFrom replacement (some p) rest
        | none => replacement :: decodeLossyFrom replacement none rest

/-- Bytes as text, with the replacement character for what is none. -/
def decodeLossy (bytes : List UInt8) : List Char :=
  decodeLossyFrom (Char.ofNat 0xFFFD) none bytes

def encode (l : List Char) : List UInt8 :=
  l.flatMap String.utf8EncodeChar

def Cause.text : Cause → String
  | .startByte => "invalid start byte"
  | .continuationByte => "invalid continuation byte"
  | .endOfData => "unexpected end of data"

def Fault.message (f : Fault) : String :=
  let place :=
    if f.first = f.last then
      "byte 0x" ++ .ofList (hex 2 f.byte.toNat) ++ " in position " ++ toString f.first
    else "bytes in position " ++ toString f.first ++ "-" ++ toString f.last
  "'utf-8' codec can't decode " ++ place ++ ": " ++ f.cause.text

end ImageRelease.Text.Utf8
