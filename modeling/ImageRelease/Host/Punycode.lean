import ImageRelease.Text.Split
import ImageRelease.Text.Surrogate
/-!
Labels in ASCII alone.

The ASCII characters of a label come first, then a hyphen if there are any, then a row of numbers
that say which other characters stand where. The characters are told by rising code points, and
each number is how many places the next of them is further on, counting all places for all code
points passed. A number has digits of base thirty-six, the last of them below a threshold that
follows the size of the numbers so far.
-/

namespace ImageRelease.Host.Punycode

def base : Nat := 36

/-- The first code point that is told by numbers. -/
def firstCode : Nat := 128

def firstBias : Nat := 72

def hyphen : Char := '-'

def digitChar (n : Nat) : Char :=
  if n < 26 then Char.ofNat (0x61 + n) else Char.ofNat (0x30 + (n - 26))

def digitValue? (c : Char) : Option Nat :=
  if 'a' ≤ c ∧ c ≤ 'z' then some (c.toNat - 0x61)
  else if 'A' ≤ c ∧ c ≤ 'Z' then some (c.toNat - 0x41)
  else if '0' ≤ c ∧ c ≤ '9' then some (c.toNat - 0x30 + 26)
  else none

/-- The value below which a digit at a position is the last one. -/
def threshold (bias position : Nat) : Nat :=
  min 26 (max 1 (base * (position + 1) - bias))

theorem threshold_pos (bias position : Nat) : 0 < threshold bias position := by
  unfold threshold; omega

theorem threshold_le (bias position : Nat) : threshold bias position ≤ 26 := by
  unfold threshold; omega

/-- The bias for a size of numbers, from the size and the sum so far. -/
def biasFor (delta sum : Nat) : Nat :=
  if 455 < delta then biasFor (delta / 35) (sum + base)
  else sum + base * delta / (delta + 38)
termination_by delta
decreasing_by exact Nat.div_lt_self (by omega) (by omega)

/-- The bias after a number, when there are `count` characters. -/
def nextBias (delta : Nat) (isFirst : Bool) (count : Nat) : Nat :=
  let delta := if isFirst then delta / 700 else delta / 2
  biasFor (delta + delta / count) 0

def digits (bias position n : Nat) : List Char :=
  let t := threshold bias position
  if n < t then [digitChar n]
  else digitChar (t + (n - t) % (base - t)) :: digits bias (position + 1) ((n - t) / (base - t))
termination_by n
decreasing_by
  have h1 := threshold_pos bias position
  have h2 := threshold_le bias position
  have h3 : (n - threshold bias position) / (base - threshold bias position) ≤
      n - threshold bias position := Nat.div_le_self _ _
  omega

/-- How far the telling has come. -/
structure Teller where
  /-- The places passed since the last character that was told. -/
  delta : Nat := 0
  bias : Nat := firstBias
  isFirst : Bool := true
  /-- The characters that are told. -/
  count : Nat
  told : List Char := []

/-- Passes a character, or tells it if it has the code point of the round. -/
def Teller.pass (code : Nat) (t : Teller) (c : Char) : Teller :=
  if c.toNat < code then { t with delta := t.delta + 1 }
  else if c.toNat = code then {
    bias := nextBias t.delta t.isFirst (t.count + 1)
    isFirst := false
    count := t.count + 1
    told := t.told ++ digits t.bias 0 t.delta }
  else t

/-- One round for each code point, from the first that has not been passed on. -/
def Teller.rounds (l : List Char) (next : Nat) (t : Teller) : List Nat → Teller
  | [] => t
  | code :: rest =>
    let t := l.foldl (·.pass code) { t with delta := t.delta + (code - next) * (t.count + 1) }
    rounds l (code + 1) { t with delta := t.delta + 1 } rest

def isBasic (c : Char) : Bool := c.toNat < firstCode

def codes (l : List Char) : List Nat :=
  (((l.filter (!isBasic ·)).map Char.toNat).eraseDups).mergeSort fun a b => decide (a ≤ b)

def encode (l : List Char) : List Char :=
  let basic := l.filter isBasic
  let told := (Teller.rounds l firstCode { count := basic.length } (codes l)).told
  if basic = [] then told else basic ++ hyphen :: told

/-- The number at the start of a text, and what follows it. -/
def readNumber (bias position weight sum : Nat) : List Char → Option (Nat × List Char)
  | [] => none
  | c :: rest =>
    match digitValue? c with
    | none => none
    | some d =>
      let t := threshold bias position
      if d < t then some (sum + d * weight, rest)
      else readNumber bias (position + 1) (weight * (base - t)) (sum + d * weight) rest

/-- How far the reading has come: the next place and code point, and the characters placed. -/
structure Reader where
  place : Nat := 0
  code : Nat := firstCode
  bias : Nat := firstBias
  isFirst : Bool := true
  placed : List Char

/-- The code point of a number, or one beyond the last. -/
def Reader.codeOf (r : Reader) (delta : Nat) : Nat :=
  r.code + (r.place + delta) / (r.placed.length + 1)

/-- Places a character where a number tells. -/
def Reader.putCode (r : Reader) (delta code : Nat) : Reader :=
  let count := r.placed.length + 1
  let place := (r.place + delta) % count
  { place := place + 1
    code
    bias := nextBias delta r.isFirst count
    isFirst := false
    placed := r.placed.take place ++ Text.Surrogate.ofUnit code :: r.placed.drop place }

/-- Places the character of a number; there must be such a character. -/
def Reader.put (r : Reader) (delta : Nat) : Option Reader :=
  if 0x10FFFF < r.codeOf delta then none else some (r.putCode delta (r.codeOf delta))

/-- Reads the numbers of a text, of which there are at most so many. -/
def Reader.run (r : Reader) : (most : Nat) → List Char → Option (List Char)
  | _, [] => some r.placed
  | 0, _ => none
  | most + 1, l =>
    match readNumber r.bias 0 1 0 l with
    | none => none
    | some (delta, rest) =>
      match r.put delta with
      | none => none
      | some r => r.run most rest

/-- The text that is told: the ASCII characters stand before the last hyphen. -/
def decode? (l : List Char) : Option (List Char) :=
  let (basic, numbers) := (Text.cutLast hyphen l).getD ([], l)
  Reader.run { placed := basic } numbers.length numbers

/-- Reads the numbers of a text, of which there are at most so many, as far as they are numbers. A
code point beyond the last is that of a question mark. -/
def Reader.runFar (r : Reader) : (most : Nat) → List Char → List Char
  | 0, _ | _, [] => r.placed
  | most + 1, l =>
    match readNumber r.bias 0 1 0 l with
    | none => r.placed
    | some (delta, rest) =>
      let code := if 0x10FFFF < r.codeOf delta then '?'.toNat else r.codeOf delta
      (r.putCode delta code).runFar most rest

/-- The text that is told by numbers after ASCII characters, as far as they are numbers. -/
def decodeFar (basic numbers : List Char) : List Char :=
  Reader.runFar { placed := basic } numbers.length numbers

end ImageRelease.Host.Punycode
