import ImageRelease.Number.Shortest
/-!
Spans of time in seconds, as settings give them: a whole number, or a double.
-/

namespace ImageRelease

inductive Seconds
  | whole (n : Int)
  | real (x : Float)

def Seconds.text : Seconds → String
  | .whole n => toString n
  | .real x => Number.text x

/-- The span to the second. -/
def Seconds.rounded : Seconds → String
  | .whole n => Number.wholeText (Number.ofInt n)
  | .real x => Number.wholeText x

/-- Whether a whole number of seconds is not beyond all doubles. -/
def Seconds.isBounded : Seconds → Bool
  | .whole n => match Number.view (Number.ofInt n) with
    | .finite .. => true
    | _ => false
  | .real _ => true

def Seconds.isZero : Seconds → Bool
  | .whole n => n == 0
  | .real x => Number.isZero x

end ImageRelease
