import ImageRelease.Host.Admitted
import ImageRelease.Host.Composition
import ImageRelease.Host.Direction
import ImageRelease.Host.Joining
import ImageRelease.Host.Mark
import ImageRelease.Host.Punycode
import ImageRelease.Host.Script
import ImageRelease.Text.Quoted
/-!
Labels: what stands between the dots of a host name.

A label is composed, has admitted characters in places where they may stand, and keeps to one
direction. It is sent in ASCII: one with other characters is told by numbers after a mark in front.
-/

namespace ImageRelease.Host.Label

open Text (Surrogate.code)

inductive Fault
  | empty
  | tooLong
  | notComposed
  | innerHyphens
  | outerHyphen
  | leadingMark
  | character (c : Char) (position : Nat) (label : List Char)
  | joiner (c : Char) (position : Nat) (label : List Char)
  | context (c : Char) (position : Nat) (label : List Char)
  | direction (fault : Direction.Fault) (label : List Char)
  | nothingTold
  | openTelling
  | wrongTelling
  deriving DecidableEq, Repr

/-- The number of a character, with four digits of base sixteen at least. -/
def codeText (c : Char) : String :=
  let n := Surrogate.code c
  .ofList ('U' :: '+' :: (Text.hex (max 4 (Nat.toDigits 16 n).length) n).map Char.toUpper)

def directionMessage (label : List Char) : Direction.Fault → String
  | .first =>
    "First codepoint in label " ++ Text.quoted (.ofList label) ++
      " must be directionality L, R or AL"
  | .inRight n =>
    "Invalid direction for codepoint at position " ++ toString n ++ " in a right-to-left label"
  | .inLeft n =>
    "Invalid direction for codepoint at position " ++ toString n ++ " in a left-to-right label"
  | .numbers => "Can not mix numeral types in a right-to-left label"
  | .ending => "Label ends with illegal codepoint directionality"

def Fault.message : Fault → String
  | .empty => "Empty Label"
  | .tooLong => "Label too long"
  | .notComposed => "Label must be in Normalization Form C"
  | .innerHyphens => "Label has disallowed hyphens in 3rd and 4th position"
  | .outerHyphen => "Label must not start or end with a hyphen"
  | .leadingMark => "Label begins with an illegal combining character"
  | .character c n label =>
    "Codepoint " ++ codeText c ++ " at position " ++ toString n ++ " of " ++
      Text.quoted (.ofList label) ++ " not allowed"
  | .joiner c n label =>
    "Unknown codepoint adjacent to joiner " ++ codeText c ++ " at position " ++ toString n ++
      " in " ++ Text.quoted (.ofList label)
  | .context c n label =>
    "Codepoint " ++ codeText c ++ " not allowed at position " ++ toString n ++ " in " ++
      Text.quoted (.ofList label)
  | .direction fault label => directionMessage label fault
  | .nothingTold => "Malformed A-label, no Punycode eligible content found"
  | .openTelling => "A-label must not end with a hyphen"
  | .wrongTelling => "Invalid A-label"

/-- The most characters of a label that is looked at. -/
def lookLimit : Nat := 254

/-- The most characters of a label that is sent. -/
def sizeLimit : Nat := 63

/-- What stands in front of a label that is told by numbers. -/
def told : List Char := ['x', 'n', '-', '-']

/-- Whether the first character that joining does not pass by is in one of two sets. -/
def meets (a b : Text.CodeSet) (l : List Char) : Bool :=
  match l.dropWhile transparent.contains with
  | c :: _ => a.contains c || b.contains c
  | [] => false

/-- Whether a text, given with its last character first, ends with a mark that takes the vowel. -/
def endsWithVirama (before : List Char) : Bool :=
  match before with
  | c :: _ => markClass c == viramaClass
  | [] => false

def joiner : Char := Char.ofNat 0x200D

def nonJoiner : Char := Char.ofNat 0x200C

/-- Whether a joiner may stand between two texts, the first given with its last character first. -/
def mayJoin (c : Char) (before after : List Char) : Bool :=
  endsWithVirama before ||
    (c == nonJoiner && meets joinsLeft joinsBoth before && meets joinsRight joinsBoth after)

def arabicDigits : Text.CodeSet := ⟨[0x660, 0x66A]⟩

def persianDigits : Text.CodeSet := ⟨[0x6F0, 0x6FA]⟩

/-- The rule for a character that is admitted among certain others: whether it may stand between two
texts, the first given with its last character first. Other characters have no such rule. -/
def mayStand? (label : List Char) (c : Char) (before after : List Char) : Option Bool :=
  let next (l : List Char) (p : Char → Bool) := (l.head?.map p).getD false
  let n := c.toNat
  if n = 0xB7 then some (next before (· == 'l') && next after (· == 'l'))
  else if n = 0x375 then some (next after greek.contains)
  else if n = 0x5F3 ∨ n = 0x5F4 then some (next before hebrew.contains)
  else if n = 0x30FB then some (label.any fun d => d != c && japanese.contains d)
  else if arabicDigits.contains c then some (!label.any persianDigits.contains)
  else if persianDigits.contains c then some (!label.any arabicDigits.contains)
  else none

/-- Checks the characters of a label from a position on. -/
def checkFrom (label : List Char) (position : Nat) (before : List Char) :
    List Char → Except Fault Unit
  | [] => .ok ()
  | c :: rest =>
    let next := checkFrom label (position + 1) (c :: before) rest
    if isAdmitted c then next
    else if c = joiner ∨ c = nonJoiner then
      if mayJoin c before rest then next else .error (.joiner c position label)
    else match mayStand? label c before rest with
      | some true => next
      | some false => .error (.context c position label)
      | none => .error (.character c position label)

def check (label : List Char) : Except Fault Unit := do
  if label = [] then throw .empty
  if lookLimit < label.length then throw .tooLong
  if !isComposed label then throw .notComposed
  if (label.drop 2).take 2 = ['-', '-'] then throw .innerHyphens
  if label.head? = some '-' ∨ label.getLast? = some '-' then throw .outerHyphen
  if (label.head?.map marks.contains).getD false then throw .leadingMark
  checkFrom label 1 [] label
  match Direction.fault? (label.map Direction.of) with
  | some fault => throw (.direction fault label)
  | none => return ()

/-- Checks a label as it is sent: what is told by numbers is checked as it is shown. -/
def checkSent (label : List Char) : Except Fault Unit :=
  let label := label.map Char.toLower
  if told.isPrefixOf label then
    let numbers := label.drop told.length
    if numbers = [] then .error .nothingTold
    else if numbers.getLast? = some '-' then .error .openTelling
    else match Punycode.decode? numbers with
      | some shown => check shown
      | none => .error .wrongTelling
  else check label

def encode (label : List Char) : Except Fault (List Char) := do
  let isPlain := label.all Punycode.isBasic
  if isPlain then checkSent label else check label
  let sent := if isPlain then label else told ++ Punycode.encode label
  if sizeLimit < sent.length then throw .tooLong
  return sent

end ImageRelease.Host.Label
