import ImageRelease.Json.Value
import ImageRelease.Number.Reading
import ImageRelease.Text.Hex
import ImageRelease.Text.Surrogate
/-!
Reading JSON, with the place and the cause where a text is none.

Beyond the standard the words `NaN`, `Infinity` and `-Infinity` are numbers, and an escape may be
one half of a pair alone. Of two fields of one name the last counts. A number without point and
power is a whole number. A fault lies at the character that cannot go on, or where the text or the
escape began that does not end. Whole numbers may have so many digits, and arrays and objects may
lie so deep in one another, and no more; what comes first in the text is told.
-/

namespace ImageRelease.Json

inductive Cause
  | value
  | fieldName
  | colon
  | comma
  | unterminated
  | control
  | escape
  | unicodeEscape
  | extraData
  | byteOrderMark
  deriving DecidableEq, Repr

structure Fault where
  cause : Cause
  position : Nat
  deriving DecidableEq, Repr

def Cause.text : Cause → String
  | .value => "Expecting value"
  | .fieldName => "Expecting property name enclosed in double quotes"
  | .colon => "Expecting ':' delimiter"
  | .comma => "Expecting ',' delimiter"
  | .unterminated => "Unterminated string starting at"
  | .control => "Invalid control character at"
  | .escape => "Invalid \\escape"
  | .unicodeEscape => "Invalid \\uXXXX escape"
  | .extraData => "Extra data"
  | .byteOrderMark => "Unexpected UTF-8 BOM (decode using utf-8-sig)"

/-- The fault with its line and column, both counted from one. -/
def Fault.message (f : Fault) (text : List Char) : String :=
  let before := text.take f.position
  let line := before.count '\n' + 1
  let column := (before.reverse.takeWhile (· != '\n')).length + 1
  f.cause.text ++ ": line " ++ toString line ++ " column " ++ toString column ++
    " (char " ++ toString f.position ++ ")"

/-- How many digits a whole number may have, and how deep arrays and objects may lie. -/
structure Limits where
  digits : Nat := 4300
  depth : Nat := 990
  deriving DecidableEq, Repr

/-- What holds other values. -/
inductive Container
  | array
  | object
  deriving DecidableEq, Repr

/-- Why a text is not read: it is no JSON, or it goes beyond a limit. -/
inductive Obstacle
  | fault (f : Fault)
  | manyDigits (limit count : Nat)
  | deep (container : Container)
  deriving DecidableEq, Repr

def Container.name : Container → String
  | array => "array"
  | object => "object"

def Obstacle.message (text : List Char) : Obstacle → String
  | .fault f => f.message text
  | .manyDigits limit count =>
    "Exceeds the limit (" ++ toString limit ++ " digits) for integer string conversion: " ++
      "value has " ++ toString count ++
      " digits; use sys.set_int_max_str_digits() to increase the limit"
  | .deep container =>
    "maximum recursion depth exceeded while decoding a JSON " ++ container.name ++
      " from a unicode string"

/-- The text still to be read, and the position of its first character. -/
structure Cursor where
  position : Nat
  rest : List Char

def Cursor.skip (c : Cursor) (n : Nat) : Cursor :=
  ⟨c.position + n, c.rest.drop n⟩

def isSpace (c : Char) : Bool :=
  c == ' ' || c == '\t' || c == '\n' || c == '\r'

def Cursor.skipSpace (c : Cursor) : Cursor :=
  c.skip (c.rest.takeWhile isSpace).length

/-- The result of reading a part. -/
abbrev Read (α : Type) := Except Obstacle (α × Cursor)

/-- A text that cannot go on at a position. -/
def refused {α : Type} (cause : Cause) (position : Nat) : Except Obstacle α :=
  .error (.fault ⟨cause, position⟩)

def fourHex? (l : List Char) : Option Nat :=
  if l.drop 3 = [] then none
  else (l.take 4).foldl (fun n c => do return (← n) * 16 + (← Text.hexValue? c)) (some 0)

def simpleEscape? : Char → Option Char
  | '"' => some '"'
  | '\\' => some '\\'
  | '/' => some '/'
  | 'b' => some (Char.ofNat 0x08)
  | 'f' => some (Char.ofNat 0x0C)
  | 'n' => some '\n'
  | 'r' => some '\r'
  | 't' => some '\t'
  | _ => none

/-- An escape from the letter `u` on: the character and how many characters it takes. -/
def unicodeEscape (c : Cursor) : Except Obstacle (Char × Nat) := do
  let digits := c.rest.drop 1
  if digits.drop 4 = [] then refused .unicodeEscape c.position
  let some n := fourHex? digits | refused .unicodeEscape c.position
  match digits.drop 4 with
  | '\\' :: 'u' :: more =>
    if Text.Surrogate.isHigh n ∧ more.drop 4 ≠ [] then
      let some m := fourHex? more | refused .unicodeEscape (c.position + 6)
      if Text.Surrogate.isLow m then
        return (Text.Surrogate.pair n m, 11)
    return (Text.Surrogate.ofUnit n, 5)
  | _ => return (Text.Surrogate.ofUnit n, 5)

/-- The text after an opening quote at `start`. -/
def readString (start : Nat) : (fuel : Nat) → Cursor → List Char → Read String
  | 0, _, _ => refused .unterminated start
  | fuel + 1, c, done =>
    match c.rest with
    | [] => refused .unterminated start
    | '"' :: _ => .ok (.ofList done.reverse, c.skip 1)
    | '\\' :: [] => refused .unterminated start
    | '\\' :: 'u' :: _ =>
      match unicodeEscape (c.skip 1) with
      | .error f => .error f
      | .ok (x, n) => readString start fuel (c.skip (1 + n)) (x :: done)
    | '\\' :: e :: _ =>
      match simpleEscape? e with
      | none => refused .escape c.position
      | some x => readString start fuel (c.skip 2) (x :: done)
    | x :: _ =>
      if x.toNat < 0x20 then refused .control c.position
      else readString start fuel (c.skip 1) (x :: done)

def Cursor.string (c : Cursor) : Read String :=
  readString (c.position - 1) (c.rest.length + 1) c []

/-- The point and the digits after it, if there is at least one. -/
def fractionPart : List Char → List Char
  | '.' :: rest =>
    match rest.takeWhile Char.isDigit with
    | [] => []
    | ds => '.' :: ds
  | _ => []

/-- The mark, the sign and the digits of a power, if there is at least one digit. -/
def powerPart : List Char → List Char
  | [] => []
  | e :: rest =>
    if e = 'e' ∨ e = 'E' then
      let sign := rest.take (if rest.head? = some '-' ∨ rest.head? = some '+' then 1 else 0)
      match (rest.drop sign.length).takeWhile Char.isDigit with
      | [] => []
      | ds => e :: sign ++ ds
    else []

/-- The longest number at the start of a text: its sign, its digits, and what follows the digits;
no digits means no number. -/
def numberParts (l : List Char) : List Char × List Char × List Char :=
  let sign := l.take (if l.head? = some '-' then 1 else 0)
  let l := l.drop sign.length
  let digits := if l.head? = some '0' then ['0'] else l.takeWhile Char.isDigit
  let l := l.drop digits.length
  let fraction := fractionPart l
  (sign, digits, fraction ++ powerPart (l.drop fraction.length))

def Cursor.number (limits : Limits) (c : Cursor) : Read Json :=
  let (sign, digits, tail) := numberParts c.rest
  let length := sign.length + digits.length + tail.length
  if digits = [] then refused .value c.position
  else if tail = [] then
    if limits.digits < digits.length then .error (.manyDigits limits.digits digits.length)
    else
      let n : Int := (Number.digitsValue digits : Nat)
      .ok (.int (if sign = [] then n else -n), c.skip length)
  else
    match Number.readUnsigned (sign != []) (digits ++ tail) with
    | some x => .ok (.float x, c.skip length)
    | none => refused .value c.position

def words : List (String × Json) :=
  [("null", .null), ("true", .bool true), ("false", .bool false), ("NaN", .float Number.notANumber),
    ("Infinity", .float (Number.infinity false)), ("-Infinity", .float (Number.infinity true))]

def Cursor.atom (limits : Limits) (c : Cursor) : Read Json :=
  match words.find? fun w => w.1.toList.isPrefixOf c.rest with
  | some (w, v) => .ok (v, c.skip w.length)
  | none => c.number limits

mutual

/-- The value at a cursor, where arrays and objects may lie `room` deep. -/
def readValue (limits : Limits) : (fuel room : Nat) → Cursor → Read Json
  | 0, _, c => refused .value c.position
  | fuel + 1, room, c =>
    match c.rest, room with
    | '"' :: _, _ => (c.skip 1).string.map fun (s, c) => (.str s, c)
    | '[' :: _, 0 => .error (.deep .array)
    | '[' :: _, room + 1 =>
      let c := (c.skip 1).skipSpace
      match c.rest with
      | ']' :: _ => .ok (.arr [], c.skip 1)
      | _ => (readItems limits fuel room c []).map fun (l, c) => (.arr l, c)
    | '{' :: _, 0 => .error (.deep .object)
    | '{' :: _, room + 1 =>
      let c := (c.skip 1).skipSpace
      match c.rest with
      | '}' :: _ => .ok (.obj [], c.skip 1)
      | _ => (readFields limits fuel room c []).map fun (l, c) => (.obj l, c)
    | _, _ => c.atom limits

def readItems (limits : Limits) : (fuel room : Nat) → Cursor → List Json → Read (List Json)
  | 0, _, c, _ => refused .value c.position
  | fuel + 1, room, c, done =>
    match readValue limits fuel room c with
    | .error f => .error f
    | .ok (v, c) =>
      let c := c.skipSpace
      match c.rest with
      | ']' :: _ => .ok ((v :: done).reverse, c.skip 1)
      | ',' :: _ => readItems limits fuel room (c.skip 1).skipSpace (v :: done)
      | _ => refused .comma c.position

def readFields (limits : Limits) :
    (fuel room : Nat) → Cursor → List (String × Json) → Read (List (String × Json))
  | 0, _, c, _ => refused .value c.position
  | fuel + 1, room, c, done =>
    match c.rest with
    | '"' :: _ =>
      match (c.skip 1).string with
      | .error f => .error f
      | .ok (name, c) =>
        let c := c.skipSpace
        match c.rest with
        | ':' :: _ =>
          match readValue limits fuel room (c.skip 1).skipSpace with
          | .error f => .error f
          | .ok (v, c) =>
            let c := c.skipSpace
            let done := Entries.put name v done
            match c.rest with
            | '}' :: _ => .ok (done, c.skip 1)
            | ',' :: _ => readFields limits fuel room (c.skip 1).skipSpace done
            | _ => refused .comma c.position
        | _ => refused .colon c.position
    | _ => refused .fieldName c.position

end

/-- The value that a text spells, with blanks around it at most. -/
def read (text : List Char) (limits : Limits := {}) : Except Obstacle Json :=
  match readValue limits (2 * text.length + 2) limits.depth (Cursor.mk 0 text).skipSpace with
  | .error o => .error o
  | .ok (v, c) =>
    let c := c.skipSpace
    if c.rest = [] then .ok v else refused .extraData c.position

/-- The value that a text without a byte order mark in front spells. -/
def readUnmarked (text : List Char) (limits : Limits := {}) : Except Obstacle Json :=
  if text.head? = some (Char.ofNat 0xFEFF) then refused .byteOrderMark 0 else read text limits

end ImageRelease.Json
