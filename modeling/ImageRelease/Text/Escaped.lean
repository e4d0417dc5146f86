import ImageRelease.Text.Piece
import ImageRelease.Text.Surrogate
import ImageRelease.Text.Hex
/-!
Bytes of Latin letters as text, with escapes for all other characters.

An escape is a backslash with a letter of its own, with up to three octal digits, or with a letter
and the hexadecimal digits that it asks for. Too few digits, or a code point that there is not, are
no character; a backslash before anything else stands for itself.
-/

namespace ImageRelease.Text.Escaped

def latin (b : UInt8) : Char := Char.ofNat b.toNat

/-- The character of a code point, or of a surrogate. -/
def point? (n : Nat) : Option Char :=
  if n ≤ 0x10FFFF then some (Surrogate.ofUnit n) else none

/-- The next piece after a backslash and a letter that asks for so many digits. -/
def digits (count : Nat) (rest : List UInt8) : Piece :=
  let given := ((rest.map latin).take count).map hexValue?
  let good := (given.takeWhile Option.isSome).filterMap id
  if good.length = count then
    match point? (good.foldl (16 * · + ·) 0) with
    | some c => .read [c] (count + 2)
    | none => .refused (count + 2)
  else .refused (good.length + 2)

/-- The next piece where only code points are escaped. -/
def nextRaw (a : UInt8) (rest : List UInt8) : Piece :=
  match latin a, rest with
  | '\\', b :: rest =>
    match latin b with
    | 'u' => digits 4 rest
    | 'U' => digits 8 rest
    | c => .read ['\\', c] 2
  | c, _ => .read [c] 1

/-- The character of a backslash and a letter of its own. -/
def simple? : Char → Option Char
  | '\\' => some '\\'
  | '\'' => some '\''
  | '"' => some '"'
  | 'a' => some (Char.ofNat 0x07)
  | 'b' => some (Char.ofNat 0x08)
  | 't' => some '\t'
  | 'n' => some '\n'
  | 'v' => some (Char.ofNat 0x0B)
  | 'f' => some (Char.ofNat 0x0C)
  | 'r' => some '\r'
  | _ => none

def isOctal (c : Char) : Bool := '0' ≤ c && c ≤ '7'

/-- The next piece. No characters have names here, so an escape with a name in braces is none. -/
def next (a : UInt8) (rest : List UInt8) : Piece :=
  match latin a, rest with
  | '\\', [] => .unfinished
  | '\\', b :: rest =>
    match latin b with
    | '\n' => .read [] 2
    | 'x' => digits 2 rest
    | 'u' => digits 4 rest
    | 'U' => digits 8 rest
    | 'N' =>
      match rest.map latin with
      | '\x7b' :: more =>
        let name := more.takeWhile (· != '\x7d')
        if name.length = more.length then .unfinished
        else if name = [] then .refused 3
        else .refused (name.length + 4)
      | [] => .unfinished
      | _ => .refused 2
    | c =>
      if isOctal c then
        let given := c :: ((rest.map latin).takeWhile isOctal).take 2
        let n := given.foldl (fun n d => 8 * n + (d.toNat - '0'.toNat)) 0
        .read [Char.ofNat n] (given.length + 1)
      else match simple? c with
        | some d => .read [d] 2
        | none => .read ['\\', c] 2
  | c, _ => .read [c] 1

end ImageRelease.Text.Escaped
