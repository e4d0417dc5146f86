import ImageRelease.Failure
import ImageRelease.Text.Blank
/-!
Records given as JSON: which fields they have, what each takes, and what is wrong with them.

A field takes a little more than its own type, as far as the meaning is clear: a flag may be a
number or a word, a whole number may be a text or a double without fraction. All misfits are found,
in the order of the fields and, in a list, of the items. A field that is not given has its usual
value, if it has one; what is given under other names does not count.
-/

namespace ImageRelease

inductive FieldType
  | text (least : Nat)
  | flag
  | whole
  | choice (names : List String)
  | nullable (type : FieldType)
  | list (least : Nat) (item : FieldType)
  | map (value : FieldType)
  | record (name : String) (fields : List (String × FieldType × Option Json))

/-- The fields of a record, with their types and usual values. -/
abbrev Fields := List (String × FieldType × Option Json)

namespace FieldType

/-- The words for yes and for no, in small letters. -/
def yesWords : List String := ["1", "on", "t", "true", "y", "yes"]

def noWords : List String := ["0", "f", "false", "n", "no", "off"]

/-- The whole numbers from here on are too large, and so are those from here on below zero, when a
double gives them. -/
def wholeLimit : Nat := Number.twoTo 63

/-- Whole numbers as flags. One beyond the limit is not even unclear. -/
def flagOfInt (n : Int) : Except FieldFault Bool :=
  if n = 0 then .ok false
  else if n = 1 then .ok true
  else if -wholeLimit ≤ n ∧ n < wholeLimit then .error .unclearFlag
  else .error .notFlag

def readFlag : Json → Except FieldFault Bool
  | .bool b => .ok b
  | .int n => flagOfInt n
  | .float x =>
    match Number.toInt? x with
    | some n => if n.natAbs < wholeLimit then flagOfInt n else .error .notFlag
    | none => .error .notFlag
  | .str s =>
    let w := String.ofList (s.toList.map Char.toLower)
    if yesWords.contains w then .ok true
    else if noWords.contains w then .ok false
    else .error .unclearFlag
  | _ => .error .notFlag

def lengthLimit : Nat := 4300

/-- The length of the whole number that a text begins with, if no zero comes first. -/
def startLength (l : List Char) : Nat :=
  let sign := if l.head? = some '-' then 1 else 0
  match (l.drop sign).takeWhile Char.isDigit with
  | [] => 0
  | d :: digits => if d = '0' then 0 else sign + 1 + digits.length

/-- The whole number that a text spells, with a fraction of zeros at most. -/
def wholeOfText? (l : List Char) : Option Int :=
  let (negative, l) := Number.takeSign l
  let l := match Text.cutFirst '.' l with
    | some (a, b) => if b ≠ [] ∧ b.all (· == '0') then a else l
    | none => l
  (Number.dropUnderscores ' ' l).bind fun l =>
    let length := (if negative then 1 else 0) + (l.dropWhile (· == '0')).length
    if l = [] ∨ !l.all Char.isDigit ∨ lengthLimit < length then none
    else some (if negative then -(Number.digitsValue l : Nat) else (Number.digitsValue l : Nat))

/-- The whole number that a text spells, with blanks around it at most. One that begins too long is
not looked at further. -/
def wholeOfText (s : String) : Except FieldFault Int :=
  let l := Text.trimBy Number.isMargin s.toList
  if lengthLimit < startLength l then .error .tooLarge
  else match wholeOfText? l with
    | some n => .ok n
    | none => .error .unclearWhole

def readWhole : Json → Except FieldFault Int
  | .int n => .ok n
  | .bool b => .ok (if b then 1 else 0)
  | .float x =>
    match Number.view x with
    | .finite .. =>
      match Number.toInt? x with
      | some n => if n.natAbs < wholeLimit then .ok n else .error .tooLarge
      | none => .error .fraction
    | _ => .error .notFinite
  | .str s => wholeOfText s
  | _ => .error .notWhole

/-- What is read of two parts, or the misfits of both. -/
def both {α β γ : Type} (f : α → β → γ) :
    Except (List Misfit) α → Except (List Misfit) β → Except (List Misfit) γ
  | .ok a, .ok b => .ok (f a b)
  | .error e, .ok _ => .error e
  | .ok _, .error e => .error e
  | .error e, .error e' => .error (e ++ e')

/-- The items of a list, each read with its number. -/
def readItems (item : Nat → Json → Except (List Misfit) Json) :
    Nat → List Json → Except (List Misfit) (List Json)
  | _, [] => .ok []
  | n, v :: rest => both List.cons (item n v) (readItems item (n + 1) rest)

def readEntries (value : String → Json → Except (List Misfit) Json) :
    List (String × Json) → Except (List Misfit) (List (String × Json))
  | [] => .ok []
  | (n, v) :: rest => both (fun v l => (n, v) :: l) (value n v) (readEntries value rest)

def atPath (path : List Step) (input : Json) : Except FieldFault Json → Except (List Misfit) Json
  | .ok v => .ok v
  | .error fault => .error [⟨path, fault, input⟩]

mutual

/-- A text that must have something in it must also be Unicode. -/
def read (places : Text.Surrogate.Places) (path : List Step) :
    FieldType → Json → Except (List Misfit) Json
  | text least, v => atPath path v <| match v with
    | .str s =>
      if 0 < least ∧ s.toList.any places.holds then .error .notUnicode
      else if s.length < least then .error (.textTooShort least)
      else .ok v
    | _ => .error .notText
  | flag, v => atPath path v ((readFlag v).map .bool)
  | whole, v => atPath path v ((readWhole v).map .int)
  | choice names, v => atPath path v <| match v with
    | .str s => if names.contains s then .ok v else .error (.notOneOf names)
    | _ => .error (.notOneOf names)
  | nullable type, v => match v with
    | .null => .ok .null
    | v => type.read places path v
  | list least item, v => match v with
    | .arr items =>
      match readItems (fun n v => item.read places (path ++ [.index n]) v) 0 items with
      | .ok l =>
        if l.length < least then .error [⟨path, .listTooShort least l.length, v⟩] else .ok (.arr l)
      | .error e => .error e
    | _ => .error [⟨path, .notList, v⟩]
  | map value, v => match v with
    | .obj fields =>
      (readEntries (fun n v => value.read places (path ++ [.name n]) v) fields).map .obj
    | _ => .error [⟨path, .notMap, v⟩]
  | record name fields, v => match v with
    | .obj given => (readFields places path (.obj given) fields).map .obj
    | _ => .error [⟨path, .notRecord name, v⟩]

/-- The fields of a record, read from the object `given`. -/
def readFields (places : Text.Surrogate.Places) (path : List Step) (given : Json) :
    List (String × FieldType × Option Json) → Except (List Misfit) (List (String × Json))
  | [] => .ok []
  | (name, type, usual) :: rest =>
    let here := path ++ [.name name]
    let value := match given.field? name with
      | some v => type.read places here v
      | none => match usual with
        | some v => .ok v
        | none => .error [⟨here, .missing, given⟩]
    both (fun v l => (name, v) :: l) value (readFields places path given rest)

end

end FieldType

/-- A record: its fields, and whether it may be changed once it is there. -/
structure Schema where
  name : String
  frozen : Bool := false
  fields : Fields

namespace Schema

/-- The record that an object gives. -/
def read (s : Schema) (given : Json) (path : List Step := [])
    (places : Text.Surrogate.Places := .usual) : Except Failure (List (String × Json)) :=
  match FieldType.readFields places path given s.fields with
  | .ok l => .ok l
  | .error e => .error (.misfits e)

/-- What every record tells of itself, beside its fields. -/
def computedNames : List String := ["model_extra", "model_fields_set"]

/-- What every record tells of itself under a name with an underscore. -/
def computedName : String := "__fields_set__"

def kindName : String := "__class__"

def wholeName : String := "__dict__"

/-- Changes a field of a record. The new value is taken as it is. Names that begin with an
underscore are no fields and leave the record alone, but for those of what it is, which no value
changes, and of all its fields together. What a record tells of itself cannot be changed. -/
def assign (s : Schema) (record : List (String × Json)) (name : String) (v : Json) :
    Except Failure (List (String × Json)) :=
  if name = computedName then .error (.computedField s.name name)
  else if name = kindName then .error (.notKind name v.kind)
  else if name = wholeName then
    match v with
    | .obj fields => .ok fields
    | v => .error (.notWhole name v.kind)
  else if name.toList.head? = some '_' then .ok record
  else if s.frozen then .error (.misfits [⟨[.name name], .frozen, v⟩])
  else if computedNames.contains name then .error (.computedField s.name name)
  else if s.fields.any (·.1 == name) then .ok (Entries.put name v record)
  else .error (.noSuchField s.name name)

/-- The value of a field as it is written: a flag in the place of a whole number is one. -/
def written (type : FieldType) (v : Json) : Json :=
  match type, v with
  | .whole, .bool b => .int (if b then 1 else 0)
  | _, v => v.finite

/-- A record as it is written; a field that it does not have is left out. -/
def write (s : Schema) (record : List (String × Json)) : List (String × Json) :=
  s.fields.filterMap fun (name, type, _) =>
    (Entries.get? name record).map fun v => (name, written type v)

end Schema

def textField (name : String) (record : List (String × Json)) : String :=
  match Entries.get? name record with
  | some (.str s) => s
  | _ => ""

def textField? (name : String) (record : List (String × Json)) : Option String :=
  match Entries.get? name record with
  | some (.str s) => some s
  | _ => none

def flagField (name : String) (record : List (String × Json)) : Bool :=
  match Entries.get? name record with
  | some (.bool b) => b
  | _ => false

end ImageRelease
