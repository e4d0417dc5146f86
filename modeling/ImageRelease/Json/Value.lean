import ImageRelease.Entries
import ImageRelease.Number.Shortest
import ImageRelease.Text.Quoted
/-!
JSON values, with whole numbers of any size beside doubles and the fields of an object in the
order in which they were first written.

A value counts as blank when it is null, false, a zero, or an empty text, array or object.
-/

namespace ImageRelease

inductive Json
  | null
  | bool (b : Bool)
  | int (n : Int)
  | float (x : Float)
  | str (s : String)
  | arr (items : List Json)
  | obj (fields : List (String × Json))
  deriving Inhabited

namespace Json

def isBlank : Json → Bool
  | null => true
  | bool b => !b
  | int n => n == 0
  | float x => Number.isZero x
  | str s => s == ""
  | arr items => items.isEmpty
  | obj fields => fields.isEmpty

def kind : Json → String
  | null => "NoneType"
  | bool _ => "bool"
  | int _ => "int"
  | float _ => "float"
  | str _ => "str"
  | arr _ => "list"
  | obj _ => "dict"

/-- The value of a field, if this is an object that has it. -/
def field? (name : String) : Json → Option Json
  | obj fields => Entries.get? name fields
  | _ => none

mutual

/-- A value as a literal: texts in quotes, at every depth. -/
def literal : Json → String
  | null => "None"
  | bool b => if b then "True" else "False"
  | int n => toString n
  | float x => Number.text x
  | str s => Text.quoted s
  | arr items => "[" ++ literals items ++ "]"
  | obj fields => "\x7b" ++ fieldLiterals fields ++ "\x7d"

def literals : List Json → String
  | [] => ""
  | [x] => literal x
  | x :: y :: rest => literal x ++ ", " ++ literals (y :: rest)

def fieldLiterals : List (String × Json) → String
  | [] => ""
  | [(n, v)] => Text.quoted n ++ ": " ++ literal v
  | (n, v) :: f :: rest => Text.quoted n ++ ": " ++ literal v ++ ", " ++ fieldLiterals (f :: rest)

end

/-- A value as text: a text is itself, anything else its literal. -/
def shown : Json → String
  | str s => s
  | v => v.literal

mutual

/-- Whether all doubles in a value are finite, as strict JSON asks. -/
def isStrict : Json → Bool
  | float x => match Number.view x with
    | .finite .. => true
    | _ => false
  | arr items => allStrict items
  | obj fields => allFieldsStrict fields
  | _ => true

def allStrict : List Json → Bool
  | [] => true
  | x :: rest => isStrict x && allStrict rest

def allFieldsStrict : List (String × Json) → Bool
  | [] => true
  | (_, v) :: rest => isStrict v && allFieldsStrict rest

end

mutual

/-- A value with null in the place of each double that is not finite. -/
def finite : Json → Json
  | float x => match Number.view x with
    | .finite .. => float x
    | _ => null
  | arr items => arr (finiteItems items)
  | obj fields => obj (finiteFields fields)
  | v => v

def finiteItems : List Json → List Json
  | [] => []
  | x :: rest => finite x :: finiteItems rest

def finiteFields : List (String × Json) → List (String × Json)
  | [] => []
  | (n, v) :: rest => (n, finite v) :: finiteFields rest

end

end Json

end ImageRelease
