import ImageRelease.Host.Label
import ImageRelease.Text.Lower
/-!
Host names: labels with dots between them, and with one at the end if the name is complete.

A name is sent in small letters of ASCII. Four characters are dots, of which one is sent.
-/

namespace ImageRelease.Host.Name

inductive Fault
  | empty
  | tooLong
  | label (fault : Label.Fault)
  deriving DecidableEq, Repr

def Fault.message : Fault → String
  | .empty => "Empty domain"
  | .tooLong => "Domain too long"
  | .label fault => fault.message

/-- The most characters of a name, a dot at its end not counted. -/
def sizeLimit : Nat := 253

def isDot (c : Char) : Bool :=
  c == '.' || c.toNat == 0x3002 || c.toNat == 0xFF0E || c.toNat == 0xFF61

/-- The labels of a name, and whether there is a dot after the last of them. -/
def labels (name : List Char) : List (List Char) × Bool :=
  let all := Text.fields '.' (name.map fun c => if isDot c then '.' else c)
  if all.getLast? = some [] then (all.dropLast, true) else (all, false)

def encodeLabels : List (List Char) → Except Label.Fault (List (List Char))
  | [] => .ok []
  | l :: rest => do return (← Label.encode l) :: (← encodeLabels rest)

def checkLabels : List (List Char) → Except Label.Fault Unit
  | [] => .ok ()
  | l :: rest => do
    Label.checkSent l
    checkLabels rest

def ofLabels {α : Type} : Except Label.Fault α → Except Fault α
  | .ok a => .ok a
  | .error fault => .error (.label fault)

/-- Whether a name can be one at all: it has a character, and not too many. -/
def checkSize (name : List Char) : Except Fault Unit :=
  if name = [] then .error .empty
  else if sizeLimit + 1 < name.length then .error .tooLong
  else .ok ()

def encode (name : List Char) : Except Fault (List Char) := do
  checkSize name
  let name := Text.lower name
  checkSize name
  let (labels, isComplete) := labels name
  let sent := List.intercalate ['.'] (← ofLabels (encodeLabels labels))
  if sizeLimit < sent.length then throw .tooLong
  return if isComplete then sent ++ ['.'] else sent

def check (name : List Char) : Except Fault Unit := do
  checkSize name
  ofLabels (checkLabels (labels name).1)

end ImageRelease.Host.Name
