import ImageRelease.Number.Reading
import ImageRelease.Text.Hex
import ImageRelease.Text.Split
/-!
Hosts that are numbers of the Internet Protocol.

In the fourth version of the protocol such a number is four small numbers with dots between them.
In the sixth it is eight groups of up to four digits in base sixteen with colons between them, of
which a row of zeros may be left out once and the last two may be four small numbers; the name of a
zone may follow a percent sign.
-/

namespace ImageRelease.Host

open Text

/-- Whether a walk along four numbers with a character between any two may step from one place to
the next. At an even place a digit must follow, at an odd one there has been one. -/
def mayStep (c : Char) (place next : Nat) : Bool :=
  if place % 2 = 0 then c.isDigit && next == place + 1
  else (c.isDigit && next == place) || next == place + 1

/-- The places that a text leads to. -/
def placesAfter (l : List Char) : List Nat :=
  l.foldl (fun places c => (List.range 8).filter fun q => places.any (mayStep c · q)) [0]

/-- Whether a text has the look of four numbers, with any characters between them. -/
def looksDotted (l : List Char) : Bool :=
  (placesAfter l).contains 7

def isOctet (l : List Char) : Bool :=
  l != [] && l.all Char.isDigit && (l == ['0'] || l.head? != some '0') && l.length ≤ 3 &&
    Number.digitsValue l ≤ 255

def isDotted (l : List Char) : Bool :=
  let parts := fields '.' l
  parts.length == 4 && parts.all isOctet

def isGroup (l : List Char) : Bool :=
  l != [] && l.length ≤ 4 && l.all fun c => (hexValue? c).isSome

/-- The texts between the colons, where four small numbers at the end count as two groups. -/
def groupTexts? (l : List Char) : Option (List (List Char)) :=
  let parts := fields ':' l
  if parts.length < 3 then none
  else match parts.getLast? with
    | some last =>
      if last.contains '.' then
        if isDotted last then some (parts.dropLast ++ [['0'], ['0']]) else none
      else some parts
    | none => none

/-- The groups on one side of the row that is left out. -/
def sideGroups (l : List (List Char)) : List (List Char) :=
  if l = [[]] then [] else l

/-- Whether texts are the groups of a number, an empty one among them standing for the row that is
left out. -/
def areGroups : List (List Char) → Bool
  | [] => false
  | first :: rest =>
    if rest.dropLast.contains [] then
      let before := sideGroups (first :: rest.takeWhile (· != []))
      let after := sideGroups ((rest.dropWhile (· != [])).drop 1)
      before.length + after.length ≤ 7 && before.all isGroup && after.all isGroup
    else (first :: rest).length == 8 && (first :: rest).all isGroup

def isGrouped (l : List Char) : Bool :=
  let (number, zone) := match cutFirst '%' l with
    | some (a, b) => (a, some b)
    | none => (l, none)
  let isZone := match zone with
    | some z => z != [] && !z.contains '%'
    | none => true
  isZone && !l.contains '/' && match groupTexts? number with
    | some parts => areGroups parts
    | none => false

end ImageRelease.Host
