import ImageRelease.Json.Value
import ImageRelease.Text.Split
import ImageRelease.Text.Surrogate
import ImageRelease.Text.WriteFault
/-!
JSON values as text, in three styles: on one line in ASCII alone, for logs and machines; on one line
without blanks, for exchanges; and indented by two, for people.
-/

namespace ImageRelease.Json

open Text (hex)

def shortEscape? (c : Char) : Option Char :=
  if c = '"' then some '"'
  else if c = '\\' then some '\\'
  else if c = '\n' then some 'n'
  else if c = '\r' then some 'r'
  else if c = '\t' then some 't'
  else if c.toNat = 0x08 then some 'b'
  else if c.toNat = 0x0C then some 'f'
  else none

/-- A character where only ASCII may stand; one beyond the first plane takes two escapes. -/
def asciiChar (c : Char) : List Char :=
  let n := Text.Surrogate.code c
  match shortEscape? c with
  | some e => ['\\', e]
  | none =>
    if 0x20 ≤ n ∧ n ≤ 0x7E then [c]
    else if n < 0x10000 then '\\' :: 'u' :: hex 4 n
    else
      let m := n - 0x10000
      '\\' :: 'u' :: hex 4 (0xD800 + m / 0x400) ++ '\\' :: 'u' :: hex 4 (0xDC00 + m % 0x400)

/-- A character where only controls need an escape. -/
def plainChar (c : Char) : List Char :=
  match shortEscape? c with
  | some e => ['\\', e]
  | none => if c.toNat < 0x20 then '\\' :: 'u' :: hex 4 c.toNat else [c]

def stringText (char : Char → List Char) (s : String) : String :=
  .ofList ('"' :: s.toList.flatMap char ++ ['"'])

def floatText (x : Float) : String :=
  match Number.view x with
  | .nan => "NaN"
  | .infinite negative => if negative then "-Infinity" else "Infinity"
  | .finite .. => Number.text x

def atomText (char : Char → List Char) : Json → String
  | null => "null"
  | bool b => if b then "true" else "false"
  | int n => toString n
  | float x => floatText x
  | str s => stringText char s
  | arr _ => "[]"
  | obj _ => "\x7b\x7d"

/-- How a value stands on one line. -/
structure LineStyle where
  char : Char → List Char
  comma : String
  colon : String

mutual

def onLine (style : LineStyle) : Json → String
  | arr items => "[" ++ itemsOnLine style items ++ "]"
  | obj fields => "\x7b" ++ fieldsOnLine style fields ++ "\x7d"
  | v => atomText style.char v

def itemsOnLine (style : LineStyle) : List Json → String
  | [] => ""
  | [x] => onLine style x
  | x :: y :: rest => onLine style x ++ style.comma ++ itemsOnLine style (y :: rest)

def fieldsOnLine (style : LineStyle) : List (String × Json) → String
  | [] => ""
  | [(n, v)] => stringText style.char n ++ style.colon ++ onLine style v
  | (n, v) :: f :: rest =>
    stringText style.char n ++ style.colon ++ onLine style v ++ style.comma ++
      fieldsOnLine style (f :: rest)

end

/-- On one line in ASCII, with blanks between the parts. -/
def compactStyle : LineStyle := ⟨asciiChar, ", ", ": "⟩

/-- On one line with all characters as they are, and without blanks. -/
def denseStyle : LineStyle := ⟨plainChar, ",", ":"⟩

def compact (v : Json) : String :=
  v.onLine compactStyle

def dense (v : Json) : String :=
  v.onLine denseStyle

def newLine (depth : Nat) : String :=
  .ofList ('\n' :: List.replicate (2 * depth) ' ')

mutual

/-- A value over several lines, each item and field on a line of its own. -/
def indentedAt (depth : Nat) : Json → String
  | arr (x :: rest) => "[" ++ indentedItems depth (x :: rest) ++ newLine depth ++ "]"
  | obj (f :: rest) => "\x7b" ++ indentedFields depth (f :: rest) ++ newLine depth ++ "\x7d"
  | v => atomText plainChar v

def indentedItems (depth : Nat) : List Json → String
  | [] => ""
  | x :: rest =>
    newLine (depth + 1) ++ indentedAt (depth + 1) x ++ (if rest.isEmpty then "" else ",") ++
      indentedItems depth rest

def indentedFields (depth : Nat) : List (String × Json) → String
  | [] => ""
  | (n, v) :: rest =>
    newLine (depth + 1) ++ stringText plainChar n ++ ": " ++ indentedAt (depth + 1) v ++
      (if rest.isEmpty then "" else ",") ++ indentedFields depth rest

end

def indented (v : Json) : String :=
  v.indentedAt 0

mutual

/-- What keeps a value from being written in UTF-8, in the first of its texts that does. -/
def writeFault? (v : Json) (places : Text.Surrogate.Places := .usual) : Option Text.WriteFault :=
  match v with
  | str s => Text.utf8Fault? s.toList places
  | arr items => itemsWriteFault? places items
  | obj fields => fieldsWriteFault? places fields
  | _ => none

def itemsWriteFault? (places : Text.Surrogate.Places) : List Json → Option Text.WriteFault
  | [] => none
  | v :: rest => (v.writeFault? places).or (itemsWriteFault? places rest)

def fieldsWriteFault? (places : Text.Surrogate.Places) :
    List (String × Json) → Option Text.WriteFault
  | [] => none
  | (n, v) :: rest =>
    (Text.utf8Fault? n.toList places).or ((v.writeFault? places).or (fieldsWriteFault? places rest))

end

end ImageRelease.Json
