import ImageRelease.Number.Binary64
/-!
The shortest decimal text of a double that reads back as that double.

The reals that round to a double form an interval, whose ends belong to it when the mantissa is
even. Of each decimal grid only the two points next to the double need a look: if any point of the
grid lies in the interval, so does one of these. The first grid with such a point gives the number
of digits, and of two points the nearer gives the digits.
-/

namespace ImageRelease.Number

/-- A positive real and the ends of the interval around it, over one denominator. -/
structure Neighbourhood where
  low : Nat
  middle : Nat
  high : Nat
  den : Nat
  closed : Bool

/-- The interval of the reals that round to `mantissa * 2 ^ exponent`. Below a power of two the
doubles lie twice as dense. -/
def neighbourhood (mantissa : Nat) (exponent : Int) : Neighbourhood :=
  let (n, d) := scaled 1 (exponent - 2)
  let below := if mantissa = fullMantissa ∧ leastExponent < exponent then 1 else 2
  ⟨(4 * mantissa - below) * n, 4 * mantissa * n, (4 * mantissa + 2) * n, d, mantissa % 2 == 0⟩

def Neighbourhood.contains (i : Neighbourhood) (num den : Nat) : Bool :=
  let x := num * i.den
  if i.closed then i.low * den ≤ x && x ≤ i.high * den else i.low * den < x && x < i.high * den

/-- How many digits a fraction has before the point; for one below a tenth, minus the number of
zeros after it. -/
def pointPlace (num den : Nat) : Int :=
  if den ≤ num then ((Nat.toDigits 10 (num / den)).length : Int)
  else
    let k := (Nat.toDigits 10 (den / num)).length
    if den ≤ num * tenTo (k - 1) then 1 - (k - 1 : Nat) else 1 - (k : Int)

/-- The point of the grid of `10 ^ place` that lies in the interval and nearest to its middle, in
units of the grid. -/
def gridPoint? (i : Neighbourhood) (place : Int) : Option Nat :=
  let (up, down) := if 0 ≤ place then (tenTo place.toNat, 1) else (1, tenTo (-place).toNat)
  let num := i.middle * down
  let den := i.den * up
  let d := num / den
  let inside (k : Nat) := i.contains (k * up) down
  match inside d, inside (d + 1) with
  | true, true => some (roundDiv num den)
  | true, false => some d
  | false, true => some (d + 1)
  | false, false => none

/-- The first hit on the grids with `tried`, `tried + 1`, … digits. -/
def firstGridPoint (i : Neighbourhood) (point : Int) : (left tried : Nat) → Nat × Int
  | 0, _ => (i.middle / i.den, 0)
  | left + 1, tried =>
    match gridPoint? i (point - tried) with
    | some d => (d, point - tried)
    | none => firstGridPoint i point left (tried + 1)

/-- Digits and a place: the value is `0.digits * 10 ^ point`. -/
structure Digits where
  digits : List Char
  point : Int

/-- The shortest digits of a positive double. -/
def shortest (mantissa : Nat) (exponent : Int) : Digits :=
  let i := neighbourhood mantissa exponent
  let (d, place) := firstGridPoint i (pointPlace i.middle i.den) 17 1
  let all := Nat.toDigits 10 d
  ⟨(all.reverse.dropWhile (· == '0')).reverse, all.length + place⟩

/-- How digits are laid out: between which places of the point there is no exponent, and how many
digits an exponent has at least. -/
structure Layout where
  leastPoint : Int
  mostPoint : Int
  exponentDigits : Nat

/-- Sixteen digits before the point and four zeros after it need no exponent; a whole number keeps
a zero after the point. -/
def plainLayout : Layout := ⟨-3, 16, 2⟩

def Layout.render (l : Layout) (d : Digits) : List Char :=
  let n := d.digits.length
  if l.leastPoint ≤ d.point ∧ d.point ≤ l.mostPoint then
    if d.point ≤ 0 then '0' :: '.' :: List.replicate (-d.point).toNat '0' ++ d.digits
    else if (n : Int) ≤ d.point then
      d.digits ++ List.replicate (d.point.toNat - n) '0' ++ ['.', '0']
    else d.digits.take d.point.toNat ++ '.' :: d.digits.drop d.point.toNat
  else
    let e := d.point - 1
    let power := Nat.toDigits 10 e.natAbs
    d.digits.take 1 ++ (if n = 1 then [] else '.' :: d.digits.drop 1) ++
      'e' :: (if e < 0 then '-' else '+') ::
        List.replicate (l.exponentDigits - power.length) '0' ++ power

def text (x : Float) : String :=
  match view x with
  | .nan => "nan"
  | .infinite negative => if negative then "-inf" else "inf"
  | .finite negative m e =>
    let body := if m = 0 then ['0', '.', '0'] else plainLayout.render (shortest m e)
    .ofList (if negative then '-' :: body else body)

end ImageRelease.Number
