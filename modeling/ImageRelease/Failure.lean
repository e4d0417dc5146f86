import ImageRelease.Json.Reader
import ImageRelease.Rejection
import ImageRelease.Text.Charset
import ImageRelease.Text.Utf8
import ImageRelease.Text.WriteFault
import ImageRelease.Url.Address
/-!
Everything that can end an action early: the refusals of the catalogue, and the faults that are
not foreseen there and that no surface turns into an answer.
-/

namespace ImageRelease

/-- The faults of a registry client that are not faults of the connection. -/
inductive ExchangeFault
  | decoding
  | redirects
  deriving DecidableEq, Repr

/-- Where a field stands: its name, or its number in a list. -/
inductive Step
  | name (s : String)
  | index (n : Nat)
  deriving DecidableEq, Repr

inductive FieldFault
  | missing
  | notText
  | notUnicode
  | textTooShort (least : Nat)
  | notFlag
  | unclearFlag
  | notWhole
  | unclearWhole
  | fraction
  | notFinite
  | tooLarge
  | notOneOf (choices : List String)
  | notList
  | listTooShort (least size : Nat)
  | notMap
  | notRecord (name : String)
  | notObject
  | frozen
  | notJson (cause : Json.Cause)
  deriving DecidableEq, Repr

/-- A fault of a field, with the way to it and what stood there. -/
structure Misfit where
  path : List Step
  fault : FieldFault
  input : Json

/-- Why the system does not take a command, or does not see it to its end. -/
inductive Refusal
  /-- A NUL in the command line. -/
  | nul
  /-- Text for which there are no bytes. -/
  | notWritable (fault : Text.WriteFault)
  /-- A limit that is no span of time. -/
  | limit (cause : String)
  | system (number : Nat) (cause subject : String)
  deriving DecidableEq, Repr

inductive Failure
  | rejected (r : Rejection)
  | permissionDenied (program : String)
  | refused (why : Refusal)
  | isDirectory (path : String)
  | longName (path : String)
  | notText (fault : Text.Utf8.Fault)
  | notWritable (fault : Text.WriteFault)
  /-- A value with a text for which there are no bytes. -/
  | notPrintable (fault : Text.WriteFault)
  /-- Bytes in a charset in which they cannot be read. -/
  | notRead (fault : Text.Charset.Fault)
  | notJson (obstacle : Json.Obstacle) (text : List Char)
  | notStrictJson
  | notANumber (text : String)
  /-- A whole number beyond all doubles. -/
  | tooLarge
  /-- A span of time without an end. -/
  | endless
  /-- A span of time of which not even the length is known. -/
  | undefined
  /-- A value of a kind that lacks what is asked of it. -/
  | lacks (kind asked : String)
  | emptyCommand
  | noReference
  | badAddress (fault : Url.Fault)
  | badHost (fault : Host.Name.Fault)
  /-- An address that does not stand on its own, where an answer to it has come. -/
  | looseAddress (address : String)
  | exchange (fault : ExchangeFault) (message : String)
  | misfits (all : List Misfit)
  | noSuchField (record field : String)
  | computedField (record field : String)
  /-- A value of a kind that is given for the kind of a record. -/
  | notKind (field kind : String)
  /-- A value of a kind that is given for all fields of a record. -/
  | notWhole (field kind : String)

/-- What becomes of a tool that has run out of time. A limit that is no double cannot be told. -/
def Failure.timedOut (tool : String) (limit : Seconds) : Failure :=
  if limit.isBounded then .rejected (.tool (.timedOut tool limit)) else .tooLarge

/-- The choices as they are told: in single quotes, with `or` before the last. -/
def choicesText : List String → String
  | [] => ""
  | [x] => "'" ++ x ++ "'"
  | [x, y] => "'" ++ x ++ "' or '" ++ y ++ "'"
  | x :: rest => "'" ++ x ++ "', " ++ choicesText rest

def FieldFault.message : FieldFault → String
  | .missing => "Field required"
  | .notText => "Input should be a valid string"
  | .notUnicode => "Input should be a valid string, unable to parse raw data as a unicode string"
  | .textTooShort n =>
    "String should have at least " ++ toString n ++ " character" ++ (if n = 1 then "" else "s")
  | .notFlag => "Input should be a valid boolean"
  | .unclearFlag => "Input should be a valid boolean, unable to interpret input"
  | .notWhole => "Input should be a valid integer"
  | .unclearWhole => "Input should be a valid integer, unable to parse string as an integer"
  | .fraction => "Input should be a valid integer, got a number with a fractional part"
  | .notFinite => "Input should be a finite number"
  | .tooLarge => "Unable to parse input string as an integer, exceeded maximum size"
  | .notOneOf choices => "Input should be " ++ choicesText choices
  | .notList => "Input should be a valid list"
  | .listTooShort n k =>
    "List should have at least " ++ toString n ++ " item" ++ (if n = 1 then "" else "s") ++
      " after validation, not " ++ toString k
  | .notMap => "Input should be a valid dictionary"
  | .notRecord name => "Input should be a valid dictionary or instance of " ++ name
  | .notObject => "Input should be a valid dictionary or object to extract fields from"
  | .frozen => "Instance is frozen"
  | .notJson _ => "JSON decode error"

def FieldFault.code : FieldFault → String
  | .missing => "missing"
  | .notText => "string_type"
  | .notUnicode => "string_unicode"
  | .textTooShort _ => "string_too_short"
  | .notFlag => "bool_type"
  | .unclearFlag => "bool_parsing"
  | .notWhole => "int_type"
  | .unclearWhole => "int_parsing"
  | .fraction => "int_from_float"
  | .notFinite => "finite_number"
  | .tooLarge => "int_parsing_size"
  | .notOneOf _ => "enum"
  | .notList => "list_type"
  | .listTooShort .. => "too_short"
  | .notMap => "dict_type"
  | .notRecord _ => "model_type"
  | .notObject => "model_attributes_type"
  | .frozen => "frozen_instance"
  | .notJson _ => "json_invalid"

/-- A fault of the system, with its number and what it is about. -/
def systemMessage (number : Nat) (cause subject : String) : String :=
  "[Errno " ++ toString number ++ "] " ++ cause ++ ": " ++ Text.quoted subject

def Refusal.message : Refusal → String
  | .nul => "embedded null byte"
  | .notWritable fault => fault.message
  | .limit cause => cause
  | .system number cause subject => systemMessage number cause subject

def Failure.message : Failure → String
  | .rejected r => r.message
  | .permissionDenied program => systemMessage 13 "Permission denied" program
  | .refused why => why.message
  | .isDirectory path => systemMessage 21 "Is a directory" path
  | .longName path => systemMessage 36 "File name too long" path
  | .notText fault => fault.message
  | .notWritable fault => fault.message
  | .notPrintable fault => "Error serializing to JSON: UnicodeEncodeError: " ++ fault.message
  | .notRead fault => fault.message
  | .notJson obstacle text => obstacle.message text
  | .notStrictJson => "Out of range float values are not JSON compliant"
  | .notANumber text => "could not convert string to float: " ++ Text.quoted text
  | .tooLarge => "int too large to convert to float"
  | .endless => "cannot convert float infinity to integer"
  | .undefined => "cannot convert float NaN to integer"
  | .lacks kind asked => "'" ++ kind ++ "' object has no attribute '" ++ asked ++ "'"
  | .emptyCommand => "tuple index out of range"
  | .noReference => "list index out of range"
  | .badAddress fault => fault.message
  | .badHost fault => fault.message
  | .looseAddress address => "unknown url type: " ++ Text.quoted address
  | .exchange _ message => message
  | .misfits all => Text.joined "\n" (all.map (·.fault.message))
  | .noSuchField record field =>
    "\"" ++ record ++ "\" object has no field \"" ++ field ++ "\""
  | .computedField record field =>
    "property '" ++ field ++ "' of '" ++ record ++ "' object has no setter"
  | .notKind field kind => field ++ " must be set to a class, not '" ++ kind ++ "' object"
  | .notWhole field kind => field ++ " must be set to a dictionary, not a '" ++ kind ++ "'"

end ImageRelease
